import ProseForms.Proofs.Render.Distinct
import ProseForms.Proofs.Render.Erasure

/-!
# When ids stay as they are

The ids of a rendering depend on the answers in one way: a group of check boxes with
fewer flags than options shows more boxes once a set is held under its label, and
everything after it moves on.

* `Answers.SameBoxes` says that no such group shows more boxes under one collection of
  answers than under another.
* `width_eq_of_mem_idNumbersOf_iff` recovers from the numbers of the ids how many
  every field takes.
* `idsIn_render_eq_iff` says that two collections of answers give the same ids exactly
  when they show the same boxes.
-/

namespace ProseForms

namespace Answers

variable {answers other : Answers} {fields : List FormField}

/-! ## The same boxes -/

/-- Two collections of answers show the same boxes: they hold a set under the same
labels of check boxes with fewer flags than options. -/
def SameBoxes (answers other : Answers) (fields : List FormField) : Prop :=
  ∀ field ∈ fields, ∀ flags options,
    field.spec.control? = some (.checkBoxes flags options) → flags.length < options.length →
      (answers.options? field.label).isSome = (other.options? field.label).isSome

theorem width_eq_iff {field : FormField} :
    answers.width field = other.width field ↔ ∀ flags options,
      field.spec.control? = some (.checkBoxes flags options) → flags.length < options.length →
        (answers.options? field.label).isSome = (other.options? field.label).isSome := by
  unfold width
  cases hcontrol : field.spec.control? with
  | none => simp
  | some control =>
      cases control with
      | textBox kind default | dropDown options default | radioButtons default options => simp
      | checkBoxes flags options =>
          by_cases hlt : flags.length < options.length
          · have hne : flags.length ≠ options.length := Nat.ne_of_lt hlt
            simp only [Nat.min_eq_left (Nat.le_of_lt hlt)]
            cases (answers.options? field.label).isSome <;>
              cases (other.options? field.label).isSome <;> simp [hlt, hne, hne.symm]
          · simp only [Nat.min_eq_right (Nat.le_of_not_lt hlt)]
            simp [hlt]

/-- The same boxes are shown exactly when every field takes the same number of ids. -/
theorem sameBoxes_iff :
    answers.SameBoxes other fields ↔
      ∀ field ∈ fields, answers.width field = other.width field :=
  forall₂_congr fun _ _ => width_eq_iff.symm

/-! ## The first number that is no id -/

/-- How many ids come before the first number that is none: the base of the first group,
or the end of the fields. -/
def firstGap : List FormField → Nat
  | [] => 0
  | field :: rest =>
      match field.spec.control? with
      | none => firstGap rest
      | some control => if control.isGroup then 0 else firstGap rest + 1

/-- Up to the first gap all numbers are ids, whatever the answers. -/
theorem mem_idNumbersOf_of_lt_firstGap (answers : Answers) {base number : Nat}
    (hbase : base ≤ number) (h : number < base + firstGap fields) :
    number ∈ answers.idNumbersOf base fields := by
  induction fields generalizing base with
  | nil =>
      have hnone : number < base := h
      omega
  | cons field rest ih =>
      rw [idNumbersOf]
      rcases answers.idNumbers_cases base field with
        ⟨hcontrol, hwidth, hnumbers⟩ | ⟨_, hcontrol, hsingle, hwidth, hnumbers⟩ |
          ⟨_, hcontrol, hgroup, _, _⟩
      · rw [firstGap, hcontrol] at h
        rw [hnumbers, hwidth]
        exact ih hbase h
      · rw [firstGap, hcontrol] at h
        simp only [hsingle, Bool.false_eq_true, if_false] at h
        rw [hnumbers, hwidth]
        by_cases hnumber : number = base
        · exact List.mem_append_left _ (List.mem_singleton.2 hnumber)
        · exact List.mem_append_right _ (ih (by omega) (by omega))
      · rw [firstGap, hcontrol] at h
        simp only [hgroup, if_true] at h
        omega

/-- The first gap is no id, whatever the answers. -/
theorem firstGap_not_mem_idNumbersOf (answers : Answers) (base : Nat)
    (fields : List FormField) : base + firstGap fields ∉ answers.idNumbersOf base fields := by
  induction fields generalizing base with
  | nil => exact List.not_mem_nil
  | cons field rest ih =>
      rw [idNumbersOf, List.mem_append, not_or, firstGap]
      rcases answers.idNumbers_cases base field with
        ⟨hcontrol, hwidth, hnumbers⟩ | ⟨_, hcontrol, hsingle, hwidth, hnumbers⟩ |
          ⟨_, hcontrol, hgroup, hwidth, hnumbers⟩
      · rw [hcontrol, hnumbers, hwidth]
        exact ⟨List.not_mem_nil, ih base⟩
      · have hgap : base + (firstGap rest + 1) = base + 1 + firstGap rest := by omega
        rw [hcontrol, hnumbers, hwidth]
        simp only [hsingle, Bool.false_eq_true, if_false, hgap]
        refine ⟨fun h => ?_, ih (base + 1)⟩
        have hbase := List.mem_singleton.1 h
        omega
      · rw [hcontrol, hnumbers]
        simp only [hgroup, if_true, Nat.add_zero]
        constructor
        · intro h
          have hrange := List.mem_range'_1.1 h
          omega
        · intro h
          have hbounds := answers.mem_idNumbersOf h
          omega

/-! ## Widths from numbers -/

theorem mem_idNumbersOf_tail_iff (answers : Answers) {base number : Nat} {field : FormField}
    {rest : List FormField} :
    number ∈ answers.idNumbersOf (base + answers.width field) rest ↔
      base + answers.width field ≤ number ∧
        number ∈ answers.idNumbersOf base (field :: rest) := by
  rw [idNumbersOf, List.mem_append]
  constructor
  · intro h
    exact ⟨(answers.mem_idNumbersOf h).1, Or.inr h⟩
  · rintro ⟨hle, h | h⟩
    · have hbounds := answers.mem_idNumbers h
      omega
    · exact h

/-- A place after the ids of a field is an id of the field under other answers, as long
as it lies within the field. -/
theorem mem_idNumbers_of_width_le {base number : Nat} {field : FormField}
    (hlo : base + answers.width field ≤ number) (hhi : number < base + other.width field) :
    number ∈ other.idNumbers base field := by
  rcases other.idNumbers_cases base field with
    ⟨_, hwidth, _⟩ | ⟨_, _, _, hwidth, hnumbers⟩ | ⟨_, hcontrol, _, _, hnumbers⟩
  · omega
  · rw [hnumbers, List.mem_singleton]
    omega
  · have hpos := answers.width_pos hcontrol
    rw [hnumbers, List.mem_range'_1]
    omega

/-- If the first field takes more ids under other answers, then the first gap after its
ids is no gap under the other answers. -/
theorem exists_idNumber_of_width_lt {field : FormField} (base : Nat) (rest : List FormField)
    (h : answers.width field < other.width field) :
    ∃ number, number ∉ answers.idNumbersOf base (field :: rest) ∧
      number ∈ other.idNumbersOf base (field :: rest) := by
  have hle : base + answers.width field ≤ base + answers.width field + firstGap rest :=
    Nat.le_add_right _ _
  refine ⟨base + answers.width field + firstGap rest, fun hmem => ?_, ?_⟩
  · exact answers.firstGap_not_mem_idNumbersOf _ rest
      (answers.mem_idNumbersOf_tail_iff.2 ⟨hle, hmem⟩)
  · -- Under the other answers the place is still in the field, or among the single controls
    -- that come right after it.
    rw [idNumbersOf, List.mem_append]
    by_cases hfield : base + answers.width field + firstGap rest < base + other.width field
    · exact Or.inl (mem_idNumbers_of_width_le hle hfield)
    · exact Or.inr (other.mem_idNumbersOf_of_lt_firstGap (Nat.le_of_not_lt hfield) (by omega))

/-- The numbers of the ids in some fields determine how many ids every field takes. -/
theorem width_eq_of_mem_idNumbersOf_iff {base : Nat}
    (h : ∀ number, number ∈ answers.idNumbersOf base fields ↔
      number ∈ other.idNumbersOf base fields) :
    ∀ field ∈ fields, answers.width field = other.width field := by
  induction fields generalizing base with
  | nil => exact fun _ hfield => nomatch hfield
  | cons first rest ih =>
      have hwidth : answers.width first = other.width first := by
        rcases Nat.lt_trichotomy (answers.width first) (other.width first) with hlt | heq | hgt
        · obtain ⟨number, hnot, hmem⟩ := exists_idNumber_of_width_lt base rest hlt
          exact absurd ((h number).2 hmem) hnot
        · exact heq
        · obtain ⟨number, hnot, hmem⟩ := exists_idNumber_of_width_lt base rest hgt
          exact absurd ((h number).1 hmem) hnot
      -- The first field ends at the same number on both sides, so the rest starts at one.
      have hrest : ∀ number,
          number ∈ answers.idNumbersOf (base + answers.width first) rest ↔
            number ∈ other.idNumbersOf (base + answers.width first) rest := by
        intro number
        rw [mem_idNumbersOf_tail_iff, h number, hwidth, mem_idNumbersOf_tail_iff]
      intro field hfield
      rcases List.mem_cons.1 hfield with rfl | hfield
      · exact hwidth
      · exact ih hrest field hfield

end Answers

/-! ## The ids of a document -/

namespace Document

variable (idPrefix : String) (answers other : Answers) (doc : Document)

/-- Two collections of answers give the same ids, in document order, if they show the same
boxes, and only then. -/
theorem idsIn_render_eq_iff :
    (answers.SameBoxes other doc.shownFields →
      Node.idsIn (doc.render idPrefix answers) = Node.idsIn (doc.render idPrefix other)) ∧
    (answers.widthOf doc.shownFields < UInt32.size →
      other.widthOf doc.shownFields < UInt32.size →
      Node.idsIn (doc.render idPrefix answers) = Node.idsIn (doc.render idPrefix other) →
        answers.SameBoxes other doc.shownFields) := by
  constructor
  · intro hboxes
    have herase := Renderer.eraseShown_render_eq_of_width idPrefix
      (Answers.sameBoxes_iff.1 hboxes)
    rw [← Node.idsIn_eraseShown, herase, Node.idsIn_eraseShown]
  · intro hroom hroom' hids
    have hperm := idsIn_render_perm idPrefix answers doc
    rw [hids] at hperm
    have hfields := (List.perm_append_left_iff _).1
      (hperm.symm.trans (idsIn_render_perm idPrefix other doc))
    rw [ids_fieldAddresses idPrefix answers doc hroom,
      ids_fieldAddresses idPrefix other doc hroom'] at hfields
    have hnumbers : ∀ number, number ∈ answers.idNumbersOf 1 doc.shownFields ↔
        number ∈ other.idNumbersOf 1 doc.shownFields := by
      intro number
      rw [← List.mem_map_of_injective (idAt_injective idPrefix), hfields.mem_iff,
        List.mem_map_of_injective (idAt_injective idPrefix)]
    exact Answers.sameBoxes_iff.2 (Answers.width_eq_of_mem_idNumbersOf_iff hnumbers)

/-- Two boxes stand before a text box, with a flag for the first only, and either one or
the other is ticked. -/
theorem idsIn_render_eq_twoTicks :
    let doc : Document := ⟨[.paragraph [
      .formField ⟨"Fruit", false, .checkBoxes (.literal [true]) (.literal ["Apple", "Pear"])⟩,
      .formField ⟨"Name", false, .textBox .plainText none⟩]]⟩
    let answers := Answers.empty.apply (.tick "Fruit" "Apple" true)
    let other := Answers.empty.apply (.tick "Fruit" "Pear" true)
    answers.widthOf doc.shownFields < UInt32.size ∧ other.widthOf doc.shownFields < UInt32.size ∧
      Node.idsIn (doc.render "p" answers) = Node.idsIn (doc.render "p" other) ∧
        answers.SameBoxes other doc.shownFields := by
  intro doc answers other
  have hroom : answers.widthOf doc.shownFields < UInt32.size := by decide
  have hroom' : other.widthOf doc.shownFields < UInt32.size := by decide
  have hids : Node.idsIn (doc.render "p" answers) = Node.idsIn (doc.render "p" other) := by
    decide
  exact ⟨hroom, hroom', hids,
    (idsIn_render_eq_iff "p" answers other doc).2 hroom hroom' hids⟩

/-- The first tick makes the second box appear, which takes the id of the text box. -/
theorem idsIn_render_ne_afterTick :
    ¬ ∀ (idPrefix : String) (answers other : Answers) (doc : Document),
      Node.idsIn (doc.render idPrefix answers) = Node.idsIn (doc.render idPrefix other) := by
  intro h
  have hids := h "p" .empty (Answers.empty.apply (.tick "Fruit" "Apple" true))
    ⟨[.paragraph [
      .formField ⟨"Fruit", false, .checkBoxes (.literal [true]) (.literal ["Apple", "Pear"])⟩,
      .formField ⟨"Name", false, .textBox .plainText none⟩]]⟩
  exact absurd hids (by decide)

end Document

end ProseForms
