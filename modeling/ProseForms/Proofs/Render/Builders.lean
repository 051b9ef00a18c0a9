import ProseForms.Proofs.Render.Containers

/-!
# Rendering for any host

A renderer hands finished children to its builder and never looks at the node that it
gets back.  What a builder makes of a document is therefore what it makes of the
document's nodes, and the ids, the supply and the notices are the same for all builders.

* `fold_fieldNode` says so of one field, and `placeAll_eq_map` of the fields of an
  outline.
* `renderWith_eq_map_fold` says so of every part of a document.
-/

namespace ProseForms

/-- A result with its value changed, the supply and the notices kept. -/
def Pass.Result.map {α β : Type} (f : α → β) (result : Pass.Result α) : Pass.Result β :=
  ⟨f result.value, result.supply, result.notices⟩

namespace Renderer

variable {N : Type} (builder : Builder N) (idPrefix : String) (answers : Answers)

/-! ## One field -/

theorem fold_groupNode (group inputType : String) (bind : String → Binding)
    (supply : IdSupply) (shown : List (String × Bool)) :
    ((nodes idPrefix answers).groupNode group inputType bind supply shown).fold builder =
      (⟨builder, idPrefix, answers⟩ : Renderer N).groupNode group inputType bind supply
        shown := by
  refine (Node.fold_element builder _ _).trans (congrArg (builder.element _) ?_)
  rw [map_mapIdx]
  rfl

theorem fold_dropDown (id key : String) (options : List String) (default : Option String) :
    ((nodes idPrefix answers).dropDown id key options default).fold builder =
      (⟨builder, idPrefix, answers⟩ : Renderer N).dropDown id key options default := by
  refine (Node.fold_element builder _ _).trans (congrArg (builder.element _) ?_)
  rw [List.map_map]
  rfl

theorem fold_controlNode (id key : String) (supply : IdSupply) (control : Control) :
    ((nodes idPrefix answers).controlNode id key supply control).fold builder =
      (⟨builder, idPrefix, answers⟩ : Renderer N).controlNode id key supply control := by
  cases control with
  | textBox kind default => rfl
  | radioButtons default options => exact fold_groupNode ..
  | checkBoxes flags options => exact fold_groupNode ..
  | dropDown options default => exact fold_dropDown ..

/-- A builder makes of a field what it makes of the field's node. -/
theorem fold_fieldNode (supply : IdSupply) (field : FormField) :
    ((nodes idPrefix answers).fieldNode supply field).fold builder =
      (⟨builder, idPrefix, answers⟩ : Renderer N).fieldNode supply field := by
  unfold fieldNode
  cases field.spec.control? with
  | none => rfl
  | some control =>
      have hcontrol := fold_controlNode builder idPrefix answers
        (IdSupply.idOf idPrefix supply.next) field.label supply.advance control
      exact congrArg (fun node => builder.element _ [_, node]) hcontrol

theorem field_eq_map (field : FormField) :
    (⟨builder, idPrefix, answers⟩ : Renderer N).field field =
      Node.fold builder <$> (nodes idPrefix answers).field field := by
  ext supply
  rw [Pass.run_map, run_field, run_field, fold_fieldNode]
  rfl

/-! ## All fields -/

mutual

theorem place_eq_map :
    ∀ outline : Outline,
      (⟨builder, idPrefix, answers⟩ : Renderer N).place outline =
        Node.fold builder <$> (nodes idPrefix answers).place outline
  | .text _ => rfl
  | .element head children => by
      -- The children are made first; the map moves over the binds to the finished node.
      have hnode : ∀ made : List Node,
          Node.fold builder ((nodes idPrefix answers).element head made) =
            builder.element head (made.map (Node.fold builder)) := Node.fold_element builder head
      simp only [place, placeAll_eq_map children, bind_map_left, map_bind, map_pure, hnode]
      rfl
  | .slot field => field_eq_map builder idPrefix answers field
termination_by structural outline => outline

/-- Placing the fields of some outlines with a builder is placing them as nodes, made
again by the builder. -/
theorem placeAll_eq_map :
    ∀ outlines : List Outline,
      (⟨builder, idPrefix, answers⟩ : Renderer N).placeAll outlines =
        List.map (Node.fold builder) <$> (nodes idPrefix answers).placeAll outlines
  | [] => rfl
  | outline :: rest => by
      simp only [placeAll, place_eq_map outline, placeAll_eq_map rest, bind_map_left, map_bind,
        map_pure, List.map_cons]
termination_by structural outlines => outlines

end

/-! ## All parts of a document -/

/-- Every builder sees the same markup: whatever a renderer makes, of a whole document
or of a part of it, is the fold of the nodes, with the same supply and notices. -/
theorem renderWith_eq_map_fold :
    let host : Renderer N := ⟨builder, idPrefix, answers⟩
    let tree := nodes idPrefix answers
    (∀ doc : Document, doc.renderWith builder idPrefix answers =
      (doc.render idPrefix answers).map (Node.fold builder)) ∧
    ∀ supply,
      (∀ blocks, (host.blocks blocks).run supply =
        ((tree.blocks blocks).run supply).map (List.map (Node.fold builder))) ∧
      (∀ block, (host.block block).run supply =
        ((tree.block block).run supply).map (Node.fold builder)) ∧
      (∀ inlines, (host.inlines inlines).run supply =
        ((tree.inlines inlines).run supply).map (List.map (Node.fold builder))) ∧
      (∀ inline, (host.inline inline).run supply =
        ((tree.inline inline).run supply).map (Node.fold builder)) ∧
      (∀ field, (host.field field).run supply =
        ((tree.field field).run supply).map (Node.fold builder)) := by
  intro host tree
  have hblocks : ∀ blocks supply, (host.blocks blocks).run supply =
      ((tree.blocks blocks).run supply).map (List.map (Node.fold builder)) := by
    intro blocks supply
    rw [blocks_eq_placeAll, blocks_eq_placeAll, placeAll_eq_map, Pass.run_map]
    rfl
  refine ⟨fun doc => congrArg Pass.Result.value (hblocks doc.blocks .start), fun supply =>
    ⟨fun blocks => hblocks blocks supply, fun block => ?_, fun inlines => ?_, fun inline => ?_,
      fun field => ?_⟩⟩
  · rw [block_eq_place, block_eq_place, place_eq_map, Pass.run_map]
    rfl
  · rw [inlines_eq_placeAll, inlines_eq_placeAll, placeAll_eq_map, Pass.run_map]
    rfl
  · rw [inline_eq_place, inline_eq_place, place_eq_map, Pass.run_map]
    rfl
  · rw [field_eq_map, Pass.run_map]
    rfl

end Renderer

end ProseForms
