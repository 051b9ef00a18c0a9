import ProseForms.Proofs.Render.Numbering

/-!
# The text of rendered inlines

The alternative text of an image is made from its body without rendering it.  It is the
text that the body would have as markup: `Node.readText` reads it off rendered nodes, where
a break is a line feed and an image says its own alternative text.

A form field is the one thing that the two do not agree about, because a rendered field
consists of more than its label.  `Inline.readTextOf_fillAll` therefore reads inlines with
the labels of their fields in the place of the fields; when no field is rendered, this is
what rendering makes of them (`readTextOf_inlines`).
-/

namespace ProseForms

mutual

/-- The text of a node: a break is a line feed, an image is its alternative text, and every
other element is its children one after the other. -/
def Node.readText : Node → String
  | .text content => content
  | .element head children =>
      if head.tag = .br then "\n"
      else if head.tag = .img then head.attributes.alt.getD ""
      else Node.readTextOf children
termination_by structural node => node

/-- The texts of the nodes of a forest, one after the other. -/
def Node.readTextOf : List Node → String
  | [] => ""
  | node :: rest => node.readText ++ Node.readTextOf rest
termination_by structural nodes => nodes

end

/-- The label of a field in the place of the field. -/
def FormField.labelNode (field : FormField) : Node :=
  .text field.label

mutual

theorem Inline.readText_fill :
    ∀ (inline : Inline) (i : Nat),
      (inline.outline.fill .tree (fun _ field => field.labelNode) i).readText =
        inline.plainText
  | .str _, _ | .entity _, _ | .space, _ | .softBreak, _ | .lineBreak, _ => rfl
  | .emph body, i | .strong body, i | .link body _, i => Inline.readTextOf_fillAll body i
  | .code _, _ => String.append_empty
  | .image .., _ => rfl
  | .formField _, _ => rfl
termination_by structural inline => inline

/-- Inlines read as their plain text, when every field reads as its label. -/
theorem Inline.readTextOf_fillAll :
    ∀ (inlines : List Inline) (i : Nat),
      Node.readTextOf
        (Outline.fillAll .tree (fun _ field => field.labelNode) i (Inline.outlines inlines)) =
          Inline.plainTextOf inlines
  | [], _ => rfl
  | inline :: rest, i => by
      rw [Inline.outlines, Outline.fillAll, Node.readTextOf, Inline.readText_fill inline i,
        Inline.readTextOf_fillAll rest, Inline.plainTextOf]
termination_by structural inlines => inlines

end

namespace Renderer

/-- Where no field is rendered, the plain text of inlines is what reads off their markup. -/
theorem readTextOf_inlines (idPrefix : String) (answers : Answers) (supply : IdSupply)
    (body : List Inline) (h : Inline.fieldsOf (Inline.emptyImagesIn body) = []) :
    Node.readTextOf (((nodes idPrefix answers).inlines body).run supply).value =
      Inline.plainTextOf body := by
  have hopen : Outline.fieldsIn (Inline.outlines body) = [] :=
    (Inline.fieldsIn_outlines body).trans h
  have hlabels : ∀ f : Nat → FormField → Node,
      Outline.fillAll .tree f 0 (Inline.outlines body) =
        Outline.fillAll .tree (fun _ field => field.labelNode) 0 (Inline.outlines body) := by
    intro f
    refine Outline.fillAll_congr fun k field hfield => ?_
    rw [hopen] at hfield
    cases hfield
  rw [inlines_eq_placeAll, run_placeAll, hlabels]
  exact Inline.readTextOf_fillAll body 0

/-- A field in an image is read as its label, also in an image in a link. -/
theorem readTextOf_inlines_nested :
    let hidden : Inline := .formField ⟨"Name", true, .textBox .plainText none⟩
    let body : List Inline := [.emph [.str "a",
      .link [.image [.strong [.code "b", .lineBreak], hidden] "u", .lineBreak]
        (.reference "r" none)], .softBreak, .entity "&amp;"]
    Inline.fieldsOf (Inline.emptyImagesIn body) = [] ∧
      Node.readTextOf (((nodes "p" .empty).inlines body).run .start).value =
        "ab\nName\n\n&amp;" := by
  intro hidden body
  have hshown : Inline.fieldsOf (Inline.emptyImagesIn body) = [] := by decide
  exact ⟨hshown, (readTextOf_inlines "p" .empty .start body hshown).trans (by decide)⟩

end Renderer

end ProseForms
