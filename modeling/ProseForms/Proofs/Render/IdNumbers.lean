import Mathlib.Data.List.Basic
import ProseForms.Proofs.Render.Ids

/-!
# The numbers of ids

A single control has its base number as its id.  A group has no id at its base, which
only names it, and its choices have the numbers after it.  So the numbers of the ids
in some fields can be listed without rendering anything.

* `Answers.idNumbersOf` is the list, which ascends.
* `ids_flatMap_eq` says that the ids of fields which are laid out one after the other
  are the ids with these numbers.
-/

namespace ProseForms

/-! ## The list -/

/-- Whether a control is a group, which gives an id to each of its choices and none to
itself. -/
def Control.isGroup : Control → Bool
  | .textBox .. | .dropDown .. => false
  | .radioButtons .. | .checkBoxes .. => true

namespace Answers

/-- The numbers of the ids in a field that is laid out at a base number. -/
def idNumbers (answers : Answers) (base : Nat) (field : FormField) : List Nat :=
  match field.spec.control? with
  | none => []
  | some control =>
      if control.isGroup then List.range' (base + 1) (answers.width field - 1) else [base]

/-- The numbers of the ids in fields that are laid out one after the other. -/
def idNumbersOf (answers : Answers) (base : Nat) : List FormField → List Nat
  | [] => []
  | field :: rest =>
      answers.idNumbers base field ++ answers.idNumbersOf (base + answers.width field) rest

variable (answers : Answers) {base number : Nat} {field : FormField}

/-- A field takes no numbers, its base alone, or the numbers after its base. -/
theorem idNumbers_cases (base : Nat) (field : FormField) :
    (field.spec.control? = none ∧
      answers.width field = 0 ∧ answers.idNumbers base field = []) ∨
    (∃ control, field.spec.control? = some control ∧ control.isGroup = false ∧
      answers.width field = 1 ∧ answers.idNumbers base field = [base]) ∨
    (∃ control, field.spec.control? = some control ∧ control.isGroup = true ∧
      0 < answers.width field ∧
        answers.idNumbers base field = List.range' (base + 1) (answers.width field - 1)) := by
  unfold idNumbers
  cases hcontrol : field.spec.control? with
  | none => simp [width, hcontrol]
  | some control =>
      have hpos := answers.width_pos hcontrol
      cases control with
      | textBox kind default | dropDown options default =>
          simp [width, hcontrol, Control.isGroup]
      | radioButtons default options | checkBoxes flags options =>
          simp [hpos, Control.isGroup]

theorem mem_idNumbers (h : number ∈ answers.idNumbers base field) :
    base ≤ number ∧ number < base + answers.width field := by
  rcases answers.idNumbers_cases base field with
    ⟨_, _, hnumbers⟩ | ⟨_, _, _, hwidth, hnumbers⟩ | ⟨_, _, _, hwidth, hnumbers⟩
  · rw [hnumbers] at h
    cases h
  · rw [hnumbers] at h
    obtain rfl := List.mem_singleton.1 h
    omega
  · rw [hnumbers] at h
    have hrange := List.mem_range'_1.1 h
    omega

theorem pairwise_idNumbers (base : Nat) (field : FormField) :
    (answers.idNumbers base field).Pairwise (· < ·) := by
  rcases answers.idNumbers_cases base field with
    ⟨_, _, hnumbers⟩ | ⟨_, _, _, _, hnumbers⟩ | ⟨_, _, _, _, hnumbers⟩
  · rw [hnumbers]
    exact .nil
  · rw [hnumbers]
    exact List.pairwise_singleton _ _
  · rw [hnumbers]
    exact List.pairwise_lt_range'

theorem mem_idNumbersOf {fields : List FormField}
    (h : number ∈ answers.idNumbersOf base fields) :
    base ≤ number ∧ number < base + answers.widthOf fields := by
  induction fields generalizing base with
  | nil => cases h
  | cons field rest ih =>
      have hwidth : answers.widthOf (field :: rest) =
          answers.width field + answers.widthOf rest := rfl
      rcases List.mem_append.1 h with h | h
      · have hbounds := answers.mem_idNumbers h
        omega
      · have hbounds := ih h
        omega

theorem pairwise_idNumbersOf (base : Nat) (fields : List FormField) :
    (answers.idNumbersOf base fields).Pairwise (· < ·) := by
  induction fields generalizing base with
  | nil => exact .nil
  | cons field rest ih =>
      refine List.pairwise_append.2 ⟨answers.pairwise_idNumbers base field, ih _, ?_⟩
      intro first hfirst second hsecond
      exact Nat.lt_of_lt_of_le (answers.mem_idNumbers hfirst).2
        (answers.mem_idNumbersOf hsecond).1

end Answers

/-! ## The ids with these numbers -/

theorem ids_choiceAddresses (idPrefix : String) (base count : Nat) :
    (choiceAddresses idPrefix base count).filterMap Address.id =
      (List.range' (base + 1) count).map (idAt idPrefix) := by
  rw [choiceAddresses, List.filterMap_flatMap, List.range'_eq_map_range, List.map_map]
  exact List.flatMap_pure_eq_map _ _

variable {idPrefix : String} {answers : Answers} {base : Nat}

/-- The ids in a field that is laid out at a base number. -/
theorem FormField.LaidOutAt.ids_eq {field : FormField} {node : Node}
    (h : field.LaidOutAt idPrefix answers base node) :
    node.addresses.filterMap Address.id =
      (answers.idNumbers base field).map (idAt idPrefix) := by
  unfold LaidOutAt at h
  unfold Answers.idNumbers Answers.width
  cases hcontrol : field.spec.control? with
  | none =>
      rw [hcontrol] at h
      obtain rfl : node = .text Renderer.unsupportedText := h
      rfl
  | some control =>
      rw [hcontrol] at h
      cases control with
      | textBox kind default | dropDown options default =>
          rw [addresses_of_isSingleAt h]
          rfl
      | radioButtons default options =>
          rw [addresses_of_isGroupAt h, ids_choiceAddresses]
          rfl
      | checkBoxes flags options =>
          rw [addresses_of_isGroupAt h, ids_choiceAddresses]
          show _ = (List.range' (base + 1) (1 + _ - 1)).map (idAt idPrefix)
          rw [Nat.add_sub_cancel_left]

/-- The ids in fields that are laid out one after the other. -/
theorem ids_flatMap_eq {fields : List FormField} {node : Nat → FormField → Node}
    (h : ∀ i (field : FormField), fields[i]? = some field →
      field.LaidOutAt idPrefix answers (base + answers.widthOf (fields.take i)) (node i field)) :
    ((fields.mapIdx node).flatMap Node.addresses).filterMap Address.id =
      (answers.idNumbersOf base fields).map (idAt idPrefix) := by
  induction fields generalizing base node with
  | nil => rfl
  | cons field rest ih =>
      have hrest : ((rest.mapIdx fun i => node (i + 1)).flatMap Node.addresses).filterMap
          Address.id =
            (answers.idNumbersOf (base + answers.width field) rest).map (idAt idPrefix) := by
        refine ih fun i next hnext => ?_
        rw [Nat.add_assoc]
        exact h (i + 1) next hnext
      rw [List.mapIdx_cons, List.flatMap_cons, List.filterMap_append, (h 0 field rfl).ids_eq,
        hrest, Answers.idNumbersOf, List.map_append]
      rfl

end ProseForms
