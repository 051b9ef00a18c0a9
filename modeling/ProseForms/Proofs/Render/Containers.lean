import Mathlib.Data.List.Basic
import ProseForms.Proofs.Render.Numbering

/-!
# The containers of the fields

Every field that can be shown becomes a container, and nothing else in a rendering
is one.  Whatever is read off the containers of a rendered document is therefore
known field by field, wherever in the document the fields are.

* `Document.controls` lists the controls of a document, with their labels.
* `map_containersIn_render` says that a view of the containers which depends on the
  label and the control alone is the view of that list.
-/

namespace ProseForms

theorem map_mapIdx {α β γ : Type} (f : Nat → α → β) (g : β → γ) (items : List α) :
    (items.mapIdx f).map g = items.mapIdx fun i item => g (f i item) := by
  rw [List.mapIdx_eq_zipIdx_map, List.map_map, List.mapIdx_eq_zipIdx_map]
  rfl

/-- A view that ignores the positions of an indexed map. -/
theorem flatMap_mapIdx_eq {α β γ : Type} {f : Nat → α → β} {g : α → List γ}
    (view : β → List γ) (h : ∀ i item, view (f i item) = g item) (items : List α) :
    (items.mapIdx f).flatMap view = items.flatMap g := by
  induction items generalizing f with
  | nil => rfl
  | cons item rest ih =>
      rw [List.mapIdx_cons, List.flatMap_cons, List.flatMap_cons, h,
        ih fun i next => h (i + 1) next]

/-! ## Nodes with a tag -/

namespace Outline

variable {tag : Tag} {f : Nat → FormField → Node}

mutual

theorem withTag_fill :
    ∀ (outline : Outline) (i : Nat), (∀ head ∈ outline.heads, head.tag ≠ tag) →
      (outline.fill .tree f i).withTag tag =
        (outline.fields.mapIdx fun k => f (i + k)).flatMap (Node.withTag tag)
  | .text _, _, _ => rfl
  | .element head children, i, h => by
      have hhead : head.tag ≠ tag := h head List.mem_cons_self
      rw [fill, fields, ← withTagIn_fillAll children i fun below hbelow =>
        h below (List.mem_cons_of_mem head hbelow)]
      exact if_neg hhead
  | .slot field, i, _ => by simp [fill, fields]
termination_by structural outline => outline

/-- The nodes with a tag in filled markup are those in its stand-ins, if the outline
has none itself. -/
theorem withTagIn_fillAll :
    ∀ (outlines : List Outline) (i : Nat), (∀ head ∈ headsIn outlines, head.tag ≠ tag) →
      Node.withTagIn tag (fillAll .tree f i outlines) =
        ((fieldsIn outlines).mapIdx fun k => f (i + k)).flatMap (Node.withTag tag)
  | [], _, _ => rfl
  | outline :: rest, i, h => by
      have hfirst := withTag_fill outline i fun head hhead =>
        h head (List.mem_append_left _ hhead)
      have hrest := withTagIn_fillAll rest (i + outline.fields.length) fun head hhead =>
        h head (List.mem_append_right _ hhead)
      rw [fillAll, Node.withTagIn, hfirst, hrest, fieldsIn, List.mapIdx_append,
        List.flatMap_append]
      simp only [Nat.add_assoc, Nat.add_comm outline.fields.length]
termination_by structural outlines => outlines

end

end Outline

/-! ## Containers -/

/-- The containers of the fields in a forest, in document order. -/
def Node.containersIn (nodes : List Node) : List Node :=
  withTagIn .span nodes

/-- The label and the control of a field that can be shown. -/
def FormField.control? (field : FormField) : Option (String × Control) :=
  field.spec.control?.map fun control => (field.label, control)

/-- The controls of a document with the labels of their fields, in document order. -/
def Document.controls (doc : Document) : List (String × Control) :=
  doc.shownFields.filterMap FormField.control?

namespace Renderer

variable {idPrefix : String} {answers : Answers}

theorem withTag_span_controlNode (id key : String) (supply : IdSupply) (control : Control) :
    ((nodes idPrefix answers).controlNode id key supply control).withTag .span = [] := by
  -- A control is one element over items without a container.
  have hitems : ∀ {items : List Node}, (∀ item ∈ items, item.withTag .span = []) →
      Node.withTagIn .span items = [] := by
    intro items h
    rw [Node.withTagIn_eq_flatMap]
    exact List.flatMap_eq_nil_iff.2 h
  have hgroup : ∀ group inputType bind shown,
      ((nodes idPrefix answers).groupNode group inputType bind supply shown).withTag .span =
        [] := by
    intro group inputType bind shown
    refine hitems fun item hitem => ?_
    obtain ⟨j, hj, rfl⟩ := List.mem_mapIdx.1 hitem
    rfl
  cases control with
  | textBox kind default => rfl
  | dropDown options default =>
      refine hitems fun item hitem => ?_
      obtain ⟨choice, _, rfl⟩ := List.mem_map.1 hitem
      rfl
  | radioButtons default options => exact hgroup _ _ _ _
  | checkBoxes flags options => exact hgroup _ _ _ _

theorem fieldNode_eq_text (supply : IdSupply) {field : FormField}
    (h : field.spec.control? = none) :
    (nodes idPrefix answers).fieldNode supply field = .text unsupportedText := by
  unfold fieldNode
  rw [h]
  rfl

theorem fieldNode_eq_element (supply : IdSupply) {field : FormField} {control : Control}
    (h : field.spec.control? = some control) :
    (nodes idPrefix answers).fieldNode supply field = .element ⟨.span, {}, none⟩
      [(nodes idPrefix answers).fieldLabel (IdSupply.idOf idPrefix supply.next) field control,
        (nodes idPrefix answers).controlNode (IdSupply.idOf idPrefix supply.next) field.label
          supply.advance control] := by
  unfold fieldNode
  rw [h]
  rfl

/-- The node of a field is its only container, if the field can be shown. -/
theorem withTag_span_fieldNode (supply : IdSupply) (field : FormField) :
    ((nodes idPrefix answers).fieldNode supply field).withTag .span =
      if field.spec.control?.isSome then [(nodes idPrefix answers).fieldNode supply field]
      else [] := by
  cases hcontrol : field.spec.control? with
  | none =>
      rw [fieldNode_eq_text supply hcontrol]
      rfl
  | some control =>
      have hlabel : ∀ id, ((nodes idPrefix answers).fieldLabel id field control).withTag .span =
          [] := fun _ => rfl
      rw [fieldNode_eq_element supply hcontrol]
      simp [Node.withTag, Node.withTagIn, hlabel, withTag_span_controlNode]

/-- The containers of a rendering are the nodes of the fields that can be shown, in
document order. -/
theorem containersIn_render (idPrefix : String) (answers : Answers) (doc : Document) :
    Node.containersIn (doc.render idPrefix answers) =
      (doc.shownFields.mapIdx
        ((nodes idPrefix answers).standIn .start doc.shownFields)).flatMap
          (Node.withTag .span) := by
  have hheads : ∀ head ∈ Outline.headsIn (Block.outlines doc.blocks), head.tag ≠ .span :=
    fun _ => Block.tag_ne_of_mem_headsIn_outlines rfl
  rw [Node.containersIn, render_eq_fillAll, Outline.withTagIn_fillAll _ _ hheads,
    Block.fieldsIn_outlines]
  simp only [Nat.zero_add]
  rfl

/-- A view of the containers that depends on the label and the control alone. -/
theorem map_containersIn_render {β : Type} {view : Node → β} {g : String × Control → β}
    (h : ∀ supply {field : FormField} {control}, field.spec.control? = some control →
      view ((nodes idPrefix answers).fieldNode supply field) = g (field.label, control))
    (doc : Document) :
    (Node.containersIn (doc.render idPrefix answers)).map view = doc.controls.map g := by
  have hfield : ∀ i (field : FormField),
      (((nodes idPrefix answers).standIn .start doc.shownFields i field).withTag .span).map view =
        (field.control?.map g).toList := by
    intro i field
    rw [standIn, withTag_span_fieldNode]
    cases hcontrol : field.spec.control? with
    | none => simp [FormField.control?, hcontrol]
    | some control => simp [FormField.control?, hcontrol, h _ hcontrol]
  rw [containersIn_render, List.map_flatMap,
    flatMap_mapIdx_eq (fun node : Node => (node.withTag .span).map view) hfield,
    Document.controls, List.map_filterMap, List.filterMap_eq_flatMap_toList]

end Renderer

end ProseForms
