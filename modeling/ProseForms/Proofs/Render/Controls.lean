import ProseForms.Proofs.Render.Display

/-!
# Where the edits of a form come from

A binding stands on the controls of a field and nowhere else in a rendering, and it
names the field's label as its key.  An edit that an action raises is therefore an
edit of a shown field, of the sort that the field's control is for.

* `Control.Binds` says which bindings a control carries, and `Control.Raises` what they
  make of an action.
* `Document.exists_field_of_dispatch?` finds the field of a raised edit.
* `Document.raises_and_wiring_eq` says which actions raise which edits, and what every
  input and select does.
-/

namespace ProseForms

/-- Which bindings the control of a field carries, under the field's label as key. -/
def Control.Binds (control : Control) (key : String) (binding : Binding) : Prop :=
  match control with
  | .textBox kind _ => binding = .input kind key
  | .dropDown .. => binding = .change key
  | .radioButtons default options => ∃ value ∈ default :: options, binding = .choose key value
  | .checkBoxes _ options => ∃ option ∈ options, binding = .toggle key option

theorem Control.Binds.key_eq {control : Control} {key : String} {binding : Binding}
    (h : control.Binds key binding) : binding.key = key := by
  cases control with
  | textBox kind default =>
      rw [h]
      rfl
  | dropDown options default =>
      rw [h]
      rfl
  | radioButtons default options =>
      obtain ⟨_, _, rfl⟩ := h
      rfl
  | checkBoxes flags options =>
      obtain ⟨_, _, rfl⟩ := h
      rfl

theorem Answers.fst_mem_of_mem_shownBoxes {answers : Answers} {key : String}
    {flags : List Bool} {options : List String} {choice : String × Bool}
    (h : choice ∈ answers.shownBoxes key flags options) : choice.1 ∈ options := by
  unfold shownBoxes at h
  split at h
  · obtain ⟨option, hoption, rfl⟩ := List.mem_map.1 h
    exact hoption
  · exact (List.of_mem_zip h).1

theorem Control.binds_of_mem_bindings {control : Control} {answers : Answers} {key : String}
    {binding : Binding} (h : binding ∈ control.bindings answers key) :
    control.Binds key binding := by
  cases control with
  | textBox kind default => exact List.mem_singleton.1 h
  | dropDown options default => exact List.mem_singleton.1 h
  | radioButtons default options =>
      obtain ⟨value, hvalue, rfl⟩ := List.mem_map.1 h
      exact ⟨value, hvalue, rfl⟩
  | checkBoxes flags options =>
      obtain ⟨choice, hchoice, rfl⟩ := List.mem_map.1 h
      exact ⟨choice.1, Answers.fst_mem_of_mem_shownBoxes hchoice, rfl⟩

namespace Document

variable {idPrefix : String} {answers : Answers} {doc : Document}

/-- A bound element of a rendered document belongs to the control of a shown field. -/
theorem exists_field_of_mem_headsIn_render {head : Element} {binding : Binding}
    (h : head ∈ Node.headsIn (doc.render idPrefix answers))
    (hbinding : head.binding = some binding) :
    ∃ field ∈ doc.shownFields, ∃ control, field.spec.control? = some control ∧
      control.Binds field.label binding := by
  have hmem := (Renderer.seesControls_bindings.headsIn_perm idPrefix answers doc).mem_iff.1
    (List.mem_filterMap.2 ⟨head, h, hbinding⟩)
  rw [Renderer.seesControls_bindings.map_containersIn] at hmem
  obtain ⟨_, hbindings, hbinds⟩ := List.mem_flatten.1 hmem
  obtain ⟨_, hcontrol, rfl⟩ := List.mem_map.1 hbindings
  obtain ⟨field, hfield, hlabel⟩ := List.mem_filterMap.1 hcontrol
  obtain ⟨control, hspec, rfl⟩ := Option.map_eq_some_iff.1 hlabel
  exact ⟨field, hfield, control, hspec, Control.binds_of_mem_bindings hbinds⟩

/-- An edit that an action raises comes from the control of a shown field. -/
theorem exists_field_of_dispatch? {id : String} {notification : Notification} {edit : Edit}
    (h : Node.dispatch? (doc.render idPrefix answers) id notification = some edit) :
    ∃ field ∈ doc.shownFields, ∃ control binding,
      field.spec.control? = some control ∧ control.Binds field.label binding ∧
      binding.resolve? notification = some edit := by
  obtain ⟨head, hmem, _, binding, hbinding, hedit⟩ := Node.exists_binding_of_dispatch? h
  obtain ⟨field, hfield, control, hcontrol, hbinds⟩ :=
    exists_field_of_mem_headsIn_render hmem hbinding
  exact ⟨field, hfield, control, binding, hcontrol, hbinds, hedit⟩

end Document

/-! ## Actions and edits -/

/-- Which action on a control raises which edit, under the label of the field as key. -/
def Control.Raises (control : Control) (key : String) (notification : Notification)
    (edit : Edit) : Prop :=
  match control with
  | .textBox kind _ => ∃ text, notification = .input text ∧ edit = .text kind key text
  | .dropDown .. => ∃ value, notification = .change value ∧ edit = .text .plainText key value
  | .radioButtons default options =>
      notification = .checked true ∧
        ∃ value ∈ default :: options, edit = .text .plainText key value
  | .checkBoxes _ options => ∃ checked, notification = .checked checked ∧
      ∃ option ∈ options, edit = .tick key option checked

theorem Control.Binds.raises {control : Control} {key : String} {binding : Binding}
    {notification : Notification} {edit : Edit} (hbinds : control.Binds key binding)
    (hedit : binding.resolve? notification = some edit) :
    control.Raises key notification edit := by
  cases control with
  | textBox kind default =>
      obtain rfl := hbinds
      cases notification <;> cases hedit
      exact ⟨_, rfl, rfl⟩
  | dropDown options default =>
      obtain rfl := hbinds
      cases notification <;> cases hedit
      exact ⟨_, rfl, rfl⟩
  | radioButtons default options =>
      obtain ⟨value, hvalue, rfl⟩ := hbinds
      rcases notification with _ | _ | (_ | _) <;> cases hedit
      exact ⟨rfl, value, hvalue, rfl⟩
  | checkBoxes flags options =>
      obtain ⟨option, hoption, rfl⟩ := hbinds
      cases notification <;> cases hedit
      exact ⟨_, rfl, option, hoption, rfl⟩

/-! ## The wiring of a form -/

/-- The value and the binding of an input or a select. -/
def Element.wiring? (head : Element) : Option (Option String × Option Binding) :=
  match head.tag with
  | .input | .select => some (head.attributes.value, head.binding)
  | _ => none

/-- The values and bindings of the inputs and selects in a node, in document order. -/
def Node.wiring (node : Node) : List (Option String × Option Binding) :=
  node.heads.filterMap Element.wiring?

/-- The values and bindings of the inputs and selects of a control.  A group of check
boxes shows all its options if a set is held, and as many as it has flags otherwise. -/
def Control.wiring (answers : Answers) (key : String) :
    Control → List (Option String × Option Binding)
  | .textBox kind default =>
      [(some (answers.shownText key default), some (.input kind key))]
  | .radioButtons default options =>
      (default :: options).map fun value => (some value, some (.choose key value))
  | .checkBoxes flags options =>
      let count := if (answers.options? key).isSome then options.length
        else min flags.length options.length
      (options.take count).map fun option => (some option, some (.toggle key option))
  | .dropDown .. => [(none, some (.change key))]

namespace Renderer

variable {idPrefix : String} {answers : Answers}

theorem wiring_controlNode (id key : String) (supply : IdSupply) (control : Control) :
    ((nodes idPrefix answers).controlNode id key supply control).wiring =
      control.wiring answers key := by
  cases control with
  | textBox kind default => rfl
  | radioButtons default options =>
      exact (filterMap_heads_groupNode_map
        (g := fun choice => (some choice.1, some (.choose key choice.1))) rfl (fun _ _ => rfl)
        supply _).trans List.map_map
  | checkBoxes flags options =>
      refine (filterMap_heads_groupNode_map
        (g := fun choice => (some choice.1, some (.toggle key choice.1))) rfl (fun _ _ => rfl)
        supply (answers.shownBoxes key flags options)).trans ?_
      rw [Control.wiring, ← Answers.length_shownBoxes, ← Answers.map_fst_shownBoxes,
        List.map_map]
      rfl
  | dropDown options default =>
      exact filterMap_heads_dropDown_select (fun _ => rfl) id key options default

theorem seesControls_wiring : SeesControls Element.wiring? Control.wiring where
  markup head hhead := by
    unfold Element.wiring?
    split
    · next hinput => exact absurd hinput (hhead.tag_ne rfl)
    · next hselect => exact absurd hselect (hhead.tag_ne rfl)
    · rfl
  span := rfl
  label _ := rfl
  control := wiring_controlNode

end Renderer

namespace Document

variable (idPrefix : String) (answers : Answers) (doc : Document)

/-- The values and bindings of the inputs and selects in the containers of a rendered
document, one container after the other. -/
def wiring : List (List (Option String × Option Binding)) :=
  (Node.containersIn (doc.render idPrefix answers)).map Node.wiring

/-- An action that raises an edit is one for the control of a shown field whose label is
the key of the edit.  Every such control carries the bindings that raise its edits, one
for each of its inputs or its select, and there are no other inputs and selects. -/
theorem raises_and_wiring_eq :
    (∀ id notification edit,
      Node.dispatch? (doc.render idPrefix answers) id notification = some edit →
        ∃ field ∈ doc.shownFields, field.label = edit.key ∧
          ∃ control, field.spec.control? = some control ∧
            control.Raises field.label notification edit) ∧
    doc.wiring idPrefix answers =
      (doc.controls.map fun (key, control) => control.wiring answers key) ∧
    ((Node.headsIn (doc.render idPrefix answers)).filterMap Element.wiring?).Perm
      (doc.wiring idPrefix answers).flatten := by
  have hwiring := Renderer.seesControls_wiring
  refine ⟨fun id notification edit hraised => ?_, hwiring.map_containersIn idPrefix answers doc,
    hwiring.headsIn_perm idPrefix answers doc⟩
  obtain ⟨field, hfield, control, binding, hcontrol, hbinds, hedit⟩ :=
    exists_field_of_dispatch? hraised
  refine ⟨field, hfield, ?_, control, hcontrol, hbinds.raises hedit⟩
  rw [Binding.key_of_resolve? hedit, hbinds.key_eq]

/-- Of two groups with one option in common, the one that the user acts on is edited,
also by a box that is shown only because a set of options is held. -/
theorem raises_and_wiring_eq_secondGroup :
    let doc : Document := ⟨[.paragraph [.formField
        ⟨"Size", true, .radioButtons (.literal "M") (.literal ["L"])⟩],
      .blockquote [.paragraph [.formField
        ⟨"Fruit", false, .checkBoxes (.literal [true]) (.literal ["Pear", "M"])⟩]]]⟩
    let answers := Answers.empty.apply (.tick "Fruit" "Pear" true)
    let edit : Edit := .tick "Fruit" "M" true
    Node.dispatch? (doc.render "p" answers) "p-6" (.checked true) = some edit ∧
      ∃ field ∈ doc.shownFields, field.label = edit.key ∧
        ∃ control, field.spec.control? = some control ∧
          control.Raises field.label (.checked true) edit := by
  intro doc answers edit
  have hraised : Node.dispatch? (doc.render "p" answers) "p-6" (.checked true) = some edit := by
    decide
  exact ⟨hraised, (raises_and_wiring_eq "p" answers doc).1 _ _ _ hraised⟩

end Document

end ProseForms
