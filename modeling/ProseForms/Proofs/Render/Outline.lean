import ProseForms.Proofs.Document.Shown
import ProseForms.Render.Document

/-!
# Outlines

Rendering does two things at once: it turns blocks and inlines into elements, and
it places the form fields, each of which takes ids.  An outline is what the first
of the two leaves: markup with the form fields left open.  Placing the fields of
an outline in order is then a walk over a tree of three kinds of node, and every
fact about where fields go is an induction on outlines alone.

* `Block.outlines` is the outline of some blocks.  `fieldsIn_outlines` says that
  its open fields are the shown fields of the blocks.
* `Renderer.blocks_eq_placeAll` says that rendering blocks is placing the fields
  of their outline.
-/

namespace ProseForms

/-- Markup with the form fields left open. -/
inductive Outline where
  | text (content : String)
  | element (head : Element) (children : List Outline)
  | slot (field : FormField)

namespace Outline

mutual

/-- The open fields of an outline, in order. -/
def fields : Outline → List FormField
  | .text _ => []
  | .element _ children => fieldsIn children
  | .slot field => [field]
termination_by structural outline => outline

/-- The open fields of some outlines, in order. -/
def fieldsIn : List Outline → List FormField
  | [] => []
  | outline :: rest => outline.fields ++ fieldsIn rest
termination_by structural outlines => outlines

end

end Outline

/-! ## The outline of a document -/

mutual

/-- The outline of an inline. -/
def Inline.outline : Inline → Outline
  | .str content | .entity content => .text content
  | .space => .text " "
  | .softBreak => .text "\n"
  | .lineBreak => .element ⟨.br, {}, none⟩ []
  | .emph body => .element ⟨.em, {}, none⟩ (Inline.outlines body)
  | .strong body => .element ⟨.strong, {}, none⟩ (Inline.outlines body)
  | .code content => .element ⟨.code, {}, none⟩ [.text content]
  | .link body target =>
      .element ⟨.a, { href := some target.href }, none⟩ (Inline.outlines body)
  | .image body url =>
      .element ⟨.img, { src := some url, alt := some (Inline.plainTextOf body) }, none⟩ []
  | .formField field => .slot field
termination_by structural inline => inline

/-- The outlines of a run of inlines. -/
def Inline.outlines : List Inline → List Outline
  | [] => []
  | inline :: rest => inline.outline :: Inline.outlines rest
termination_by structural inlines => inlines

end

/-- The anchor of a link reference. -/
def Element.anchor (label url : String) : Element :=
  ⟨.a, { id := some label, name := some label, href := some url }, none⟩

mutual

/-- The outline of a block. -/
def Block.outline : Block → Outline
  | .paragraph body => .element ⟨.p, {}, none⟩ (Inline.outlines body)
  | .header level body => .element ⟨.heading level, {}, none⟩ (Inline.outlines body)
  | .blockquote body => .element ⟨.blockquote, {}, none⟩ (Block.outlines body)
  | .list kind items => .element ⟨kind.tag, {}, none⟩ (Block.itemOutlines items)
  | .codeBlock lines =>
      .element ⟨.pre, {}, none⟩
        [.element ⟨.code, {}, none⟩ [.text ("\n".intercalate lines)]]
  | .linkReference label url =>
      .element ⟨.p, {}, none⟩ [.text label, .element (.anchor label url) [.text url]]
  | .rule => .element ⟨.hr, {}, none⟩ []
termination_by structural block => block

/-- The outlines of a run of blocks. -/
def Block.outlines : List Block → List Outline
  | [] => []
  | block :: rest => block.outline :: Block.outlines rest
termination_by structural blocks => blocks

/-- The outlines of the items of a list. -/
def Block.itemOutlines : List (List Block) → List Outline
  | [] => []
  | item :: rest =>
      .element ⟨.li, {}, none⟩ (Block.outlines item) :: Block.itemOutlines rest
termination_by structural items => items

end

/-! ## The open fields are the shown fields -/

mutual

theorem Inline.fields_outline :
    ∀ inline : Inline, inline.outline.fields = inline.emptyImages.fields
  | .emph body | .strong body | .link body _ => Inline.fieldsIn_outlines body
  | .str _ | .entity _ | .space | .softBreak | .lineBreak | .code _ | .image .. => rfl
  | .formField _ => rfl
termination_by structural inline => inline

theorem Inline.fieldsIn_outlines :
    ∀ inlines : List Inline,
      Outline.fieldsIn (Inline.outlines inlines) =
        Inline.fieldsOf (Inline.emptyImagesIn inlines)
  | [] => rfl
  | inline :: rest => by
      rw [Inline.outlines, Outline.fieldsIn, Inline.fields_outline inline,
        Inline.fieldsIn_outlines rest]
      rfl
termination_by structural inlines => inlines

end

mutual

theorem Block.fields_outline :
    ∀ block : Block, block.outline.fields = block.emptyImages.fields
  | .paragraph body | .header _ body => Inline.fieldsIn_outlines body
  | .blockquote body => Block.fieldsIn_outlines body
  | .list _ items => Block.fieldsIn_itemOutlines items
  | .codeBlock _ | .linkReference .. | .rule => rfl
termination_by structural block => block

/-- The open fields of an outline are the shown fields of its blocks. -/
theorem Block.fieldsIn_outlines :
    ∀ blocks : List Block,
      Outline.fieldsIn (Block.outlines blocks) = Block.shownFieldsOf blocks
  | [] => rfl
  | block :: rest => by
      rw [Block.outlines, Outline.fieldsIn, Block.fields_outline block,
        Block.fieldsIn_outlines rest]
      rfl
termination_by structural blocks => blocks

theorem Block.fieldsIn_itemOutlines :
    ∀ items : List (List Block),
      Outline.fieldsIn (Block.itemOutlines items) =
        Block.fieldsOfItems (Block.emptyImagesInItems items)
  | [] => rfl
  | item :: rest => by
      rw [Block.itemOutlines, Outline.fieldsIn, Outline.fields, Block.fieldsIn_outlines item,
        Block.fieldsIn_itemOutlines rest]
      rfl
termination_by structural items => items

end

/-! ## Rendering places the fields of the outline -/

namespace Renderer

variable {N : Type}

mutual

/-- Places the open fields of an outline, in order. -/
def place (r : Renderer N) : Outline → Pass N
  | .text content => return r.text content
  | .element head children => do return r.element head (← placeAll r children)
  | .slot field => r.field field
termination_by structural outline => outline

/-- Places the open fields of some outlines, in order. -/
def placeAll (r : Renderer N) : List Outline → Pass (List N)
  | [] => return []
  | first :: rest => do
      let node ← place r first
      let nodes ← placeAll r rest
      return node :: nodes
termination_by structural outlines => outlines

end

mutual

theorem inline_eq_place (r : Renderer N) :
    ∀ inline : Inline, r.inline inline = r.place inline.outline
  | .emph body | .strong body | .link body _ => by
      simp only [Renderer.inline, Inline.outline, place, inlines_eq_placeAll r body]
  | .code content => by
      simp [Renderer.inline, Inline.outline, place, placeAll]
  | .lineBreak | .image .. => by
      simp [Renderer.inline, Inline.outline, place, placeAll]
  | .str _ | .entity _ | .space | .softBreak => rfl
  | .formField _ => rfl
termination_by structural inline => inline

theorem inlines_eq_placeAll (r : Renderer N) :
    ∀ inlines : List Inline, r.inlines inlines = r.placeAll (Inline.outlines inlines)
  | [] => rfl
  | inline :: rest => by
      simp only [Renderer.inlines, Inline.outlines, placeAll, inline_eq_place r inline,
        inlines_eq_placeAll r rest]
termination_by structural inlines => inlines

end

mutual

theorem block_eq_place (r : Renderer N) :
    ∀ block : Block, r.block block = r.place block.outline
  | .paragraph body | .header _ body => by
      simp only [Renderer.block, Block.outline, place, inlines_eq_placeAll r body]
  | .blockquote body => by
      simp only [Renderer.block, Block.outline, place, blocks_eq_placeAll r body]
  | .list _ items => by
      simp only [Renderer.block, Block.outline, place, items_eq_placeAll r items]
  | .codeBlock _ | .rule => by
      simp [Renderer.block, Block.outline, place, placeAll]
  | .linkReference label url => by
      simp [Renderer.block, Renderer.linkReference, Block.outline, Element.anchor, place,
        placeAll]
termination_by structural block => block

/-- Rendering some blocks is placing the fields of their outline. -/
theorem blocks_eq_placeAll (r : Renderer N) :
    ∀ blocks : List Block, r.blocks blocks = r.placeAll (Block.outlines blocks)
  | [] => rfl
  | block :: rest => by
      simp only [Renderer.blocks, Block.outlines, placeAll, block_eq_place r block,
        blocks_eq_placeAll r rest]
termination_by structural blocks => blocks

theorem items_eq_placeAll (r : Renderer N) :
    ∀ items : List (List Block), r.items items = r.placeAll (Block.itemOutlines items)
  | [] => rfl
  | item :: rest => by
      simp only [Renderer.items, Block.itemOutlines, placeAll, place, blocks_eq_placeAll r item,
        items_eq_placeAll r rest, bind_assoc, pure_bind]
termination_by structural items => items

end

end Renderer

end ProseForms
