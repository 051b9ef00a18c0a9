import ProseForms.Proofs.Render.Containers
import ProseForms.Proofs.Render.Ids
import ProseForms.Proofs.Text.Delimited

/-!
# The scope of a prefix

Several forms can stand on one page if each is rendered with a prefix of its own.  Every
id, name and label target of a control is made from the prefix and a number, and the
prefix can be told from what is made: a number has no dash, so the last dash of an id is
the one behind its prefix.

* `idAt_inj` says that an id determines its prefix and its number.
* `Document.inScope_controlNames` says that everything by which the controls of a
  rendering are known is in the scope of its prefix, however many ids it takes.
* `Document.controlNames_disjoint` compares the renderings of two forms.
-/

namespace ProseForms

/-! ## Ids and their prefixes -/

/-- An id read backwards starts with the digits of its number. -/
theorem reverse_toList_idAt (idPrefix : String) (number : Nat) :
    (idAt idPrefix number).toList.reverse =
      (Nat.toDigits 10 number).reverse ++ '-' :: idPrefix.toList.reverse := by
  simp [idAt, Nat.repr_eq_ofList_toDigits]

/-- An id determines its prefix and its number. -/
theorem idAt_inj {p q : String} {m n : Nat} : idAt p m = idAt q n ↔ p = q ∧ m = n := by
  refine ⟨fun h => ?_, fun ⟨hscope, hnumber⟩ => by rw [hscope, hnumber]⟩
  have hdigits : ∀ k, ∀ c ∈ (Nat.toDigits 10 k).reverse, c.isDigit = true := fun k c hc =>
    Nat.isDigit_of_mem_toDigits (by decide) (by decide) (List.mem_reverse.1 hc)
  have hdash : ∀ s : String, ∀ c ∈ ('-' :: s.toList.reverse).head?, c.isDigit = false := by
    rintro s c ⟨⟩
    rfl
  have hlists := congrArg (fun id : String => id.toList.reverse) h
  simp only [reverse_toList_idAt] at hlists
  obtain ⟨-, hrest⟩ :=
    Text.append_inj_of_span (hdigits m) (hdigits n) (hdash p) (hdash q) hlists
  obtain rfl : p = q :=
    String.toList_inj.1 (List.reverse_injective (List.cons.inj hrest).2)
  exact ⟨rfl, idAt_injective p h⟩

/-- Whether a name is made from a prefix and a number. -/
def InScope (idPrefix name : String) : Prop :=
  ∃ number, name = idAt idPrefix number

theorem inScope_idOf (idPrefix : String) (number : UInt32) :
    InScope idPrefix (IdSupply.idOf idPrefix number) :=
  ⟨number.toNat, rfl⟩

theorem InScope.prefix_eq {p q name : String} (hp : InScope p name) (hq : InScope q name) :
    p = q := by
  obtain ⟨m, rfl⟩ := hp
  obtain ⟨n, heq⟩ := hq
  exact (idAt_inj.1 heq).1

/-! ## What controls are known by -/

/-- The id, the name and the label target of an input, a select or a label. -/
def Element.controlNames (head : Element) : List String :=
  if head.tag = .input ∨ head.tag = .select ∨ head.tag = .label then
    head.attributes.id.toList ++ head.attributes.name.toList ++ head.attributes.forId.toList
  else []

/-- An element that the document itself contributes is no control and no label. -/
theorem Element.IsMarkup.controlNames_eq {head : Element} (h : head.IsMarkup) :
    head.controlNames = [] :=
  if_neg (not_or.2 ⟨h.tag_ne rfl, not_or.2 ⟨h.tag_ne rfl, h.tag_ne rfl⟩⟩)

namespace Node

/-- The ids, names and label targets of the inputs, selects and labels in a node. -/
def controlNames (node : Node) : List String :=
  node.heads.flatMap Element.controlNames

/-- The ids, names and label targets of the inputs, selects and labels in a forest. -/
def controlNamesIn (nodes : List Node) : List String :=
  (headsIn nodes).flatMap Element.controlNames

theorem controlNames_element (head : Element) (children : List Node) :
    (element head children).controlNames = head.controlNames ++ controlNamesIn children := by
  rw [controlNames, heads_element, List.flatMap_cons]
  rfl

theorem mem_controlNamesIn {name : String} {nodes : List Node} :
    name ∈ controlNamesIn nodes ↔ ∃ node ∈ nodes, name ∈ node.controlNames := by
  rw [controlNamesIn, headsIn_eq_flatMap, List.flatMap_assoc, List.mem_flatMap]
  rfl

/-- Whether all controls in a node are known by names in the scope of a prefix. -/
def Scoped (idPrefix : String) (node : Node) : Prop :=
  ∀ name ∈ node.controlNames, InScope idPrefix name

theorem Scoped.element {idPrefix : String} {head : Element} {children : List Node}
    (hown : ∀ name ∈ head.controlNames, InScope idPrefix name)
    (hbelow : ∀ child ∈ children, child.Scoped idPrefix) :
    (Node.element head children).Scoped idPrefix := by
  intro name hname
  rw [controlNames_element] at hname
  rcases List.mem_append.1 hname with hname | hname
  · exact hown name hname
  · obtain ⟨child, hchild, hname⟩ := mem_controlNamesIn.1 hname
    exact hbelow child hchild name hname

/-- An element that is no control and no label over children in scope. -/
theorem Scoped.plain {idPrefix : String} {head : Element} {children : List Node}
    (hown : head.controlNames = []) (hbelow : ∀ child ∈ children, child.Scoped idPrefix) :
    (Node.element head children).Scoped idPrefix :=
  .element (fun _ hname => nomatch hown ▸ hname) hbelow

theorem Scoped.text {idPrefix : String} (content : String) :
    (Node.text content).Scoped idPrefix :=
  fun _ hname => nomatch hname

end Node

/-! ## In one field -/

namespace Renderer

variable {idPrefix : String} {answers : Answers}

theorem scoped_choiceItem {group id : String} (inputType : String) (bind : String → Binding)
    (hgroup : InScope idPrefix group) (hid : InScope idPrefix id) (choice : String × Bool) :
    ((nodes idPrefix answers).choiceItem group inputType bind id choice).Scoped idPrefix := by
  intro name hname
  have hnames : name ∈ [id, group, id] := hname
  simp only [List.mem_cons, List.not_mem_nil, or_false] at hnames
  rcases hnames with rfl | rfl | rfl
  · exact hid
  · exact hgroup
  · exact hid

theorem scoped_groupNode {group : String} (inputType : String) (bind : String → Binding)
    (hgroup : InScope idPrefix group) (supply : IdSupply) (shown : List (String × Bool)) :
    ((nodes idPrefix answers).groupNode group inputType bind supply shown).Scoped idPrefix := by
  refine .plain rfl fun item hitem => ?_
  obtain ⟨j, hj, rfl⟩ := List.mem_mapIdx.1 hitem
  exact scoped_choiceItem inputType bind hgroup (inScope_idOf _ _) _

theorem scoped_controlNode {id : String} (hid : InScope idPrefix id) (key : String)
    (supply : IdSupply) (control : Control) :
    ((nodes idPrefix answers).controlNode id key supply control).Scoped idPrefix := by
  have hself : ∀ name ∈ [id, id], InScope idPrefix name := by simpa using hid
  cases control with
  | textBox kind default => exact .element hself fun _ hchild => nomatch hchild
  | radioButtons default options => exact scoped_groupNode _ _ hid _ _
  | checkBoxes flags options => exact scoped_groupNode _ _ hid _ _
  | dropDown options default =>
      refine .element hself fun option hoption => ?_
      obtain ⟨choice, _, rfl⟩ := List.mem_map.1 hoption
      exact fun _ hname => nomatch hname

theorem scoped_fieldLabel {id : String} (hid : InScope idPrefix id) (field : FormField)
    (control : Control) :
    ((nodes idPrefix answers).fieldLabel id field control).Scoped idPrefix := by
  intro name hname
  cases control with
  | textBox kind default | dropDown options default =>
      obtain rfl : name = id := List.mem_singleton.1 hname
      exact hid
  | radioButtons default options | checkBoxes flags options => cases hname

/-- The controls of a field are in scope, whichever number it starts from. -/
theorem scoped_fieldNode (supply : IdSupply) (field : FormField) :
    ((nodes idPrefix answers).fieldNode supply field).Scoped idPrefix := by
  cases hcontrol : field.spec.control? with
  | none =>
      rw [fieldNode_eq_text supply hcontrol]
      exact .text _
  | some control =>
      rw [fieldNode_eq_element supply hcontrol]
      have hid := inScope_idOf idPrefix supply.next
      refine .plain rfl fun child hchild => ?_
      rcases List.mem_cons.1 hchild with rfl | hchild
      · exact scoped_fieldLabel hid field control
      · obtain rfl := List.mem_singleton.1 hchild
        exact scoped_controlNode hid _ _ control

end Renderer

/-! ## In whole documents -/

namespace Document

/-- The controls of a rendering are known by names in the scope of its prefix only. -/
theorem inScope_controlNames (idPrefix : String) (answers : Answers) (doc : Document) :
    ∀ name ∈ Node.controlNamesIn (doc.render idPrefix answers), InScope idPrefix name := by
  intro name hname
  obtain ⟨head, hhead, hname⟩ := List.mem_flatMap.1 hname
  rw [Renderer.render_eq_fillAll] at hhead
  rcases List.mem_append.1 ((Outline.headsIn_fillAll_perm _ 0).mem_iff.1 hhead) with
    hhead | hhead
  · rw [(Block.isMarkup_of_mem_headsIn_outlines hhead).controlNames_eq] at hname
    cases hname
  · obtain ⟨node, hnode, hhead⟩ := List.mem_flatMap.1 hhead
    obtain ⟨i, hi, rfl⟩ := List.mem_mapIdx.1 hnode
    exact Renderer.scoped_fieldNode _ _ name (List.mem_flatMap.2 ⟨head, hhead, hname⟩)

/-- Two forms that are rendered with different prefixes have no id, name or label target of
a control in common. -/
theorem controlNames_disjoint {p q : String} (h : p ≠ q) (answers other : Answers)
    (doc another : Document) :
    List.Disjoint (Node.controlNamesIn (doc.render p answers))
      (Node.controlNamesIn (another.render q other)) := by
  intro name hname hother
  exact h ((inScope_controlNames p answers doc name hname).prefix_eq
    (inScope_controlNames q other another name hother))

/-- A prefix that looks like an id of the other form. -/
theorem controlNames_disjoint_nestedPrefix :
    let size : FormField := ⟨"Size", true, .radioButtons (.literal "S") (.literal ["M"])⟩
    let doc : Document := ⟨[.paragraph [.formField size]]⟩
    "p" ≠ "p-1" ∧
      Node.controlNamesIn (doc.render "p" .empty) =
        ["p-2", "p-1", "p-2", "p-3", "p-1", "p-3"] ∧
      Node.controlNamesIn (doc.render "p-1" .empty) =
        ["p-1-2", "p-1-1", "p-1-2", "p-1-3", "p-1-1", "p-1-3"] ∧
      List.Disjoint (Node.controlNamesIn (doc.render "p" .empty))
        (Node.controlNamesIn (doc.render "p-1" .empty)) := by
  intro size doc
  have h : "p" ≠ "p-1" := by decide
  exact ⟨h, by decide, by decide, controlNames_disjoint h .empty .empty doc doc⟩

end Document

end ProseForms
