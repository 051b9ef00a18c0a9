import ProseForms.Proofs.Markup.Heads
import ProseForms.Proofs.Render.Outline

/-!
# Filling outlines

An outline becomes markup when something stands in for each of its open fields.
`Outline.fill` takes the stand-ins from a function of the field and of its
position among all open fields; nothing else of the markup depends on them.

* `fillAll_congr`: only the stand-ins of the open fields matter.
* `foldAll_fillAll`: rebuilding filled markup with another builder is filling the
  outline with rebuilt stand-ins.
* `headsIn_fillAll_perm`: the elements of filled markup are those of the outline
  and those of the stand-ins.
* `Block.addresses_outlines` and `Block.isMarkup_of_mem_headsIn_outlines`: of the
  elements that a document itself contributes only the anchors of link references
  have an address, and none is a part of a form field.
-/

namespace ProseForms

namespace Outline

variable {N M : Type}

mutual

/-- An outline with its open fields filled in; `i` is the position of the first of
them. -/
def fill (builder : Builder N) (standIn : Nat → FormField → N) (i : Nat) : Outline → N
  | .text content => builder.text content
  | .element head children => builder.element head (fillAll builder standIn i children)
  | .slot field => standIn i field
termination_by structural outline => outline

/-- Outlines with their open fields filled in; `i` is the position of the first of
them. -/
def fillAll (builder : Builder N) (standIn : Nat → FormField → N) (i : Nat) :
    List Outline → List N
  | [] => []
  | outline :: rest =>
      outline.fill builder standIn i ::
        fillAll builder standIn (i + outline.fields.length) rest
termination_by structural outlines => outlines

end

section Congruence

variable {builder : Builder N} {f g : Nat → FormField → N}

mutual

theorem fill_congr :
    ∀ {outline : Outline} {i j : Nat},
      (∀ k field, outline.fields[k]? = some field → f (i + k) field = g (j + k) field) →
      outline.fill builder f i = outline.fill builder g j
  | .text _, _, _, _ => rfl
  | .element head _, _, _, h => congrArg (builder.element head) (fillAll_congr h)
  | .slot field, _, _, h => h 0 field rfl
termination_by structural outline => outline

/-- Only the stand-ins of the open fields matter. -/
theorem fillAll_congr :
    ∀ {outlines : List Outline} {i j : Nat},
      (∀ k field, (fieldsIn outlines)[k]? = some field → f (i + k) field = g (j + k) field) →
      fillAll builder f i outlines = fillAll builder g j outlines
  | [], _, _, _ => rfl
  | outline :: rest, i, j, h => by
      have hfirst : outline.fill builder f i = outline.fill builder g j := by
        refine fill_congr fun k field hk => h k field ?_
        have hlt : k < outline.fields.length := (List.getElem?_eq_some_iff.1 hk).1
        rw [fieldsIn, List.getElem?_append_left hlt]
        exact hk
      have hrest : fillAll builder f (i + outline.fields.length) rest =
          fillAll builder g (j + outline.fields.length) rest := by
        refine fillAll_congr fun k field hk => ?_
        rw [Nat.add_assoc, Nat.add_assoc]
        refine h _ field ?_
        rw [fieldsIn, List.getElem?_append_right (Nat.le_add_right _ _),
          Nat.add_sub_cancel_left]
        exact hk
      rw [fillAll, fillAll, hfirst, hrest]
termination_by structural outlines => outlines

end

end Congruence

/-! ## Rebuilding -/

section Rebuilding

variable (builder : Builder M) (f : Nat → FormField → Node)

mutual

theorem fold_fill :
    ∀ (outline : Outline) (i : Nat),
      (outline.fill .tree f i).fold builder =
        outline.fill builder (fun k field => (f k field).fold builder) i
  | .text _, _ => rfl
  | .element head children, i => congrArg (builder.element head) (foldAll_fillAll children i)
  | .slot _, _ => rfl
termination_by structural outline => outline

/-- Rebuilding filled markup is filling with rebuilt stand-ins. -/
theorem foldAll_fillAll :
    ∀ (outlines : List Outline) (i : Nat),
      Node.foldAll builder (fillAll .tree f i outlines) =
        fillAll builder (fun k field => (f k field).fold builder) i outlines
  | [], _ => rfl
  | outline :: rest, i => by
      rw [fillAll, Node.foldAll, fold_fill outline i, foldAll_fillAll rest, fillAll]
termination_by structural outlines => outlines

end

end Rebuilding

/-! ## Elements -/

mutual

/-- The elements of an outline, in document order, without those of its fields. -/
def heads : Outline → List Element
  | .text _ => []
  | .element head children => head :: headsIn children
  | .slot _ => []
termination_by structural outline => outline

/-- The elements of some outlines, in document order, without those of their
fields. -/
def headsIn : List Outline → List Element
  | [] => []
  | outline :: rest => outline.heads ++ headsIn rest
termination_by structural outlines => outlines

end

/-- The elements of the stand-ins of some fields, in order. -/
def standInHeads (f : Nat → FormField → Node) (i : Nat) (fields : List FormField) :
    List Element :=
  (fields.mapIdx fun k => f (i + k)).flatMap Node.heads

theorem standInHeads_append (f : Nat → FormField → Node) (i : Nat)
    (first rest : List FormField) :
    standInHeads f i (first ++ rest) =
      standInHeads f i first ++ standInHeads f (i + first.length) rest := by
  simp [standInHeads, List.mapIdx_append, Nat.add_assoc, Nat.add_comm first.length]

section

variable {f : Nat → FormField → Node}

mutual

theorem heads_fill_perm :
    ∀ (outline : Outline) (i : Nat),
      (outline.fill .tree f i).heads.Perm (outline.heads ++ standInHeads f i outline.fields)
  | .text _, _ => .refl _
  | .element head children, i => (headsIn_fillAll_perm children i).cons head
  | .slot field, i => by simp [fill, heads, fields, standInHeads]
termination_by structural outline => outline

/-- The elements of filled markup are those of the outline and those of the
stand-ins. -/
theorem headsIn_fillAll_perm :
    ∀ (outlines : List Outline) (i : Nat),
      (Node.headsIn (fillAll .tree f i outlines)).Perm
        (headsIn outlines ++ standInHeads f i (fieldsIn outlines))
  | [], _ => .refl _
  | outline :: rest, i => by
      have hfirst := heads_fill_perm outline i
      have hrest := headsIn_fillAll_perm rest (i + outline.fields.length)
      rw [fillAll, Node.headsIn_cons, headsIn, fieldsIn, standInHeads_append]
      refine (hfirst.append hrest).trans ?_
      rw [List.append_assoc, List.append_assoc]
      refine List.Perm.append_left _ ?_
      rw [← List.append_assoc, ← List.append_assoc]
      exact List.perm_append_comm.append_right _
termination_by structural outlines => outlines

end

end

end Outline

/-! ## What a document itself contributes -/

/-- The address of the anchor of a link reference. -/
def Address.anchor (label : String) : Address :=
  ⟨.a, some label, some label, none⟩

/-- An element without an address and without a binding. -/
def Element.IsPlain (head : Element) : Prop :=
  head.address? = none ∧ head.binding = none

/-- The tags of the elements that only form fields consist of. -/
def Tag.isField : Tag → Bool
  | .span | .label | .input | .select | .option => true
  | .p | .h1 | .h2 | .h3 | .h4 | .h5 | .h6 | .blockquote | .ul | .ol | .li | .pre | .code
  | .a | .hr | .br | .em | .strong | .img => false

theorem Tag.isField_heading (level : UInt8) : (heading level).isField = false := by
  unfold heading
  repeat' split
  all_goals rfl

mutual

theorem Inline.isPlain_of_mem_heads_outline {head : Element} :
    ∀ {inline : Inline}, head ∈ inline.outline.heads →
      head.IsPlain ∧ head.tag.isField = false
  | .emph _, h | .strong _, h | .link _ _, h => by
      rcases List.mem_cons.1 h with rfl | h
      · exact ⟨⟨rfl, rfl⟩, rfl⟩
      · exact Inline.isPlain_of_mem_headsIn_outlines h
  | .lineBreak, h | .image .., h | .code _, h => by
      obtain rfl := List.mem_singleton.1 h
      exact ⟨⟨rfl, rfl⟩, rfl⟩
termination_by structural inline => inline

theorem Inline.isPlain_of_mem_headsIn_outlines {head : Element} :
    ∀ {inlines : List Inline}, head ∈ Outline.headsIn (Inline.outlines inlines) →
      head.IsPlain ∧ head.tag.isField = false
  | _ :: _, h => by
      rcases List.mem_append.1 h with h | h
      · exact Inline.isPlain_of_mem_heads_outline h
      · exact Inline.isPlain_of_mem_headsIn_outlines h
termination_by structural inlines => inlines

end

theorem Inline.addresses_outlines (inlines : List Inline) :
    (Outline.headsIn (Inline.outlines inlines)).filterMap Element.address? = [] :=
  List.filterMap_eq_nil_iff.2 fun _ h => (Inline.isPlain_of_mem_headsIn_outlines h).1.1

mutual

theorem Block.addresses_outline :
    ∀ block : Block,
      block.outline.heads.filterMap Element.address? = block.linkLabels.map Address.anchor
  | .paragraph body | .header _ body => Inline.addresses_outlines body
  | .blockquote body => Block.addresses_outlines body
  | .list _ items => Block.addresses_itemOutlines items
  | .codeBlock _ | .linkReference .. | .rule => rfl
termination_by structural block => block

/-- Of the elements that some blocks contribute only the anchors of their link
references have an address. -/
theorem Block.addresses_outlines :
    ∀ blocks : List Block,
      (Outline.headsIn (Block.outlines blocks)).filterMap Element.address? =
        (Block.linkLabelsOf blocks).map Address.anchor
  | [] => rfl
  | block :: rest => by
      rw [Block.outlines, Outline.headsIn, List.filterMap_append,
        Block.addresses_outline block, Block.addresses_outlines rest, ← List.map_append]
      rfl
termination_by structural blocks => blocks

theorem Block.addresses_itemOutlines :
    ∀ items : List (List Block),
      (Outline.headsIn (Block.itemOutlines items)).filterMap Element.address? =
        (Block.linkLabelsOfItems items).map Address.anchor
  | [] => rfl
  | item :: rest => by
      rw [Block.itemOutlines, Outline.headsIn, List.filterMap_append, Outline.heads,
        List.filterMap_cons_none rfl, Block.addresses_outlines item,
        Block.addresses_itemOutlines rest, ← List.map_append]
      rfl
termination_by structural items => items

end

/-- An element without a binding and with none of the tags that form fields are made
of. -/
def Element.IsMarkup (head : Element) : Prop :=
  head.binding = none ∧ head.tag.isField = false

theorem Element.IsMarkup.tag_ne {head : Element} (h : head.IsMarkup) {tag : Tag}
    (htag : tag.isField = true) : head.tag ≠ tag := by
  rintro rfl
  rw [h.2] at htag
  cases htag

mutual

theorem Block.isMarkup_of_mem_heads_outline {head : Element} :
    ∀ {block : Block}, head ∈ block.outline.heads → head.IsMarkup
  | .paragraph _, h => by
      rcases List.mem_cons.1 h with rfl | h
      · exact ⟨rfl, rfl⟩
      · exact (Inline.isPlain_of_mem_headsIn_outlines h).imp_left And.right
  | .header level _, h => by
      rcases List.mem_cons.1 h with rfl | h
      · exact ⟨rfl, Tag.isField_heading level⟩
      · exact (Inline.isPlain_of_mem_headsIn_outlines h).imp_left And.right
  | .blockquote _, h => by
      rcases List.mem_cons.1 h with rfl | h
      · exact ⟨rfl, rfl⟩
      · exact Block.isMarkup_of_mem_headsIn_outlines h
  | .list kind _, h => by
      rcases List.mem_cons.1 h with rfl | h
      · exact ⟨rfl, by cases kind <;> rfl⟩
      · exact Block.isMarkup_of_mem_headsIn_itemOutlines h
  | .codeBlock _, h | .linkReference .., h => by
      rcases List.mem_cons.1 h with rfl | h
      · exact ⟨rfl, rfl⟩
      · obtain rfl := List.mem_singleton.1 h
        exact ⟨rfl, rfl⟩
  | .rule, h => by
      obtain rfl := List.mem_singleton.1 h
      exact ⟨rfl, rfl⟩
termination_by structural block => block

/-- None of the elements that some blocks contribute is a part of a form field. -/
theorem Block.isMarkup_of_mem_headsIn_outlines {head : Element} :
    ∀ {blocks : List Block}, head ∈ Outline.headsIn (Block.outlines blocks) → head.IsMarkup
  | _ :: _, h => by
      rcases List.mem_append.1 h with h | h
      · exact Block.isMarkup_of_mem_heads_outline h
      · exact Block.isMarkup_of_mem_headsIn_outlines h
termination_by structural blocks => blocks

theorem Block.isMarkup_of_mem_headsIn_itemOutlines {head : Element} :
    ∀ {items : List (List Block)}, head ∈ Outline.headsIn (Block.itemOutlines items) →
      head.IsMarkup
  | _ :: _, h => by
      rcases List.mem_append.1 h with h | h
      · rcases List.mem_cons.1 h with rfl | h
        · exact ⟨rfl, rfl⟩
        · exact Block.isMarkup_of_mem_headsIn_outlines h
      · exact Block.isMarkup_of_mem_headsIn_itemOutlines h
termination_by structural items => items

end

theorem Block.tag_ne_of_mem_headsIn_outlines {head : Element} {tag : Tag}
    (htag : tag.isField = true) {blocks : List Block}
    (h : head ∈ Outline.headsIn (Block.outlines blocks)) : head.tag ≠ tag :=
  (Block.isMarkup_of_mem_headsIn_outlines h).tag_ne htag

end ProseForms
