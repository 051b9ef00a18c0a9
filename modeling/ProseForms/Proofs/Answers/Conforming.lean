import ProseForms.Answers.Defaults
import ProseForms.Proofs.Answers.History

/-!
# Answers that fit the fields of a document

Check boxes are answered by a set of options and every other control by a text.
When fields that share a label agree on which of the two it is, the answers of a
form can be kept of the right sort for good.

* `Document.ShapeConsistent` is the condition on the document.
* `Answers.Conforms` is the invariant of the answers: every answer is of the sort of
  a field with its key as label, and check boxes that are written out have one.
* `conforms_initialAnswers` and `Conforms.apply` say that the defaults conform, and
  that an edit of the right sort keeps the answers conforming.
-/

namespace ProseForms

/-! ## Check boxes and sets -/

/-- Whether a field is a group of check boxes. -/
def FieldSpec.isCheckBoxes : FieldSpec → Bool
  | .checkBoxes .. => true
  | .textBox .. | .radioButtons .. | .dropDown .. => false

/-- Whether a control is a group of check boxes. -/
def Control.isCheckBoxes : Control → Bool
  | .checkBoxes .. => true
  | .textBox .. | .radioButtons .. | .dropDown .. => false

/-- Whether an answer is a set of options. -/
def Answer.isMultiple : Answer → Bool
  | .multiple _ => true
  | .single .. => false

theorem FieldSpec.isCheckBoxes_of_control? {spec : FieldSpec} {control : Control}
    (h : spec.control? = some control) : spec.isCheckBoxes = control.isCheckBoxes := by
  unfold control? at h
  split at h <;> cases h <;> rfl

theorem FieldSpec.eq_of_control?_checkBoxes {spec : FieldSpec} {flags : List Bool}
    {options : List String} (h : spec.control? = some (.checkBoxes flags options)) :
    spec = .checkBoxes (.literal flags) (.literal options) := by
  unfold control? at h
  split at h <;> cases h
  rfl

theorem FieldSpec.isCheckBoxes_of_initialAnswer? {spec : FieldSpec} {answer : Answer}
    (h : spec.initialAnswer? = some answer) : spec.isCheckBoxes = answer.isMultiple := by
  unfold initialAnswer? at h
  split at h <;> cases h <;> rfl

/-! ## The condition on documents -/

/-- Either all fields of a label are check boxes or none is, for every label. -/
def Document.ShapeConsistent (doc : Document) : Prop :=
  ∀ label, (∀ field ∈ doc.fields, field.label = label → field.spec.isCheckBoxes = true) ∨
    ∀ field ∈ doc.fields, field.label = label → field.spec.isCheckBoxes = false

theorem Document.shapeConsistent_iff {doc : Document} :
    doc.ShapeConsistent ↔ ∀ field ∈ doc.fields, ∀ other ∈ doc.fields,
      field.label = other.label → field.spec.isCheckBoxes = other.spec.isCheckBoxes := by
  constructor
  · intro h field hfield other hother hlabel
    rcases h other.label with h | h
    · rw [h field hfield hlabel, h other hother rfl]
    · rw [h field hfield hlabel, h other hother rfl]
  · intro h label
    by_cases hboxes : ∃ field ∈ doc.fields,
        field.label = label ∧ field.spec.isCheckBoxes = true
    · obtain ⟨field, hfield, rfl, hboxes⟩ := hboxes
      left
      intro other hother hlabel
      rw [h other hother field hfield hlabel, hboxes]
    · right
      intro field hfield hlabel
      exact Bool.eq_false_iff.2 fun hfalse => hboxes ⟨field, hfield, hlabel, hfalse⟩

instance (doc : Document) : Decidable doc.ShapeConsistent :=
  decidable_of_iff _ Document.shapeConsistent_iff.symm

namespace Answers

variable {answers : Answers} {fields : List FormField} {field : FormField}

/-! ## The invariant -/

/-- Every answer is of the sort of a field that has its key as label. -/
def Declared (answers : Answers) (fields : List FormField) : Prop :=
  ∀ key answer, answers.get? key = some answer →
    ∃ field ∈ fields, field.label = key ∧ field.spec.isCheckBoxes = answer.isMultiple

/-- The answers are of the sorts of the fields, and check boxes whose two lists are
written out have an answer. -/
structure Conforms (answers : Answers) (fields : List FormField) : Prop where
  declared : answers.Declared fields
  present : ∀ field ∈ fields, ∀ flags options,
    field.spec = .checkBoxes (.literal flags) (.literal options) →
      answers.contains field.label = true

theorem Declared.mono {more : List FormField} (h : answers.Declared fields)
    (hsubset : fields ⊆ more) : answers.Declared more := by
  intro key answer hget
  obtain ⟨field, hfield, hlabel, hshape⟩ := h key answer hget
  exact ⟨field, hsubset hfield, hlabel, hshape⟩

theorem Declared.insert {answer : Answer} (h : answers.Declared fields)
    (hfield : field ∈ fields) (hshape : field.spec.isCheckBoxes = answer.isMultiple) :
    (answers.insert field.label answer).Declared fields := by
  intro key other hget
  rw [get?_insert] at hget
  split at hget
  · rename_i hkey
    obtain rfl := Option.some.inj hget
    exact ⟨field, hfield, hkey, hshape⟩
  · exact h key other hget

theorem contains_insert (answers : Answers) (k key : String) (answer : Answer) :
    (answers.insert k answer).contains key = (decide (k = key) || answers.contains key) := by
  unfold contains
  rw [get?_insert]
  by_cases h : k = key
  · simp [h]
  · simp [h]

/-! ## The defaults -/

theorem Conforms.seed (h : answers.Conforms fields) (field : FormField) :
    (answers.seed field).Conforms (fields ++ [field]) := by
  have hdeclared : answers.Declared (fields ++ [field]) :=
    h.declared.mono (List.subset_append_left _ _)
  unfold Answers.seed
  cases hanswer : field.spec.initialAnswer? with
  | none =>
      refine ⟨hdeclared, fun other hother flags options hspec => ?_⟩
      rcases List.mem_append.1 hother with hother | hother
      · exact h.present other hother flags options hspec
      · obtain rfl := List.mem_singleton.1 hother
        rw [hspec] at hanswer
        cases hanswer
  | some answer =>
      refine ⟨hdeclared.insert (by simp) (FieldSpec.isCheckBoxes_of_initialAnswer? hanswer),
        fun other hother flags options hspec => ?_⟩
      show (answers.insert field.label answer).contains other.label = true
      rw [contains_insert, Bool.or_eq_true]
      rcases List.mem_append.1 hother with hother | hother
      · exact Or.inr (h.present other hother flags options hspec)
      · obtain rfl := List.mem_singleton.1 hother
        exact Or.inl (decide_eq_true rfl)

/-- The defaults of a document conform to its fields. -/
theorem conforms_initialAnswers (doc : Document) :
    doc.initialAnswers.Conforms doc.fields := by
  unfold Document.initialAnswers
  -- From the end, as seeding folds from the left.
  induction doc.fields using List.reverseRecOn with
  | nil =>
      refine ⟨fun key answer hget => ?_, fun field hfield => ?_⟩
      · rw [List.foldl_nil, get?_empty] at hget
        cases hget
      · cases hfield
  | append_singleton fields field ih =>
      rw [List.foldl_append]
      exact ih.seed field

/-! ## Edits -/

theorem apply_eq_insert (answers : Answers) (edit : Edit) :
    answers.apply edit = answers.insert edit.key (answers.outcome edit) := by
  cases edit with
  | text kind key value => rfl
  | tick key option checked => rfl

theorem isMultiple_outcome (answers : Answers) (edit : Edit) :
    (answers.outcome edit).isMultiple = edit.isTick := by
  cases edit with
  | text kind key value => rfl
  | tick key option checked => rfl

/-- An edit of the sort of a field with its key keeps the answers conforming. -/
theorem Conforms.apply {edit : Edit} (h : answers.Conforms fields)
    (hfield : field ∈ fields) (hkey : field.label = edit.key)
    (hshape : field.spec.isCheckBoxes = edit.isTick) :
    (answers.apply edit).Conforms fields := by
  rw [apply_eq_insert, ← hkey]
  refine ⟨h.declared.insert hfield ?_, fun other hother flags options hspec => ?_⟩
  · rw [isMultiple_outcome]
    exact hshape
  · rw [contains_insert, h.present other hother flags options hspec, Bool.or_true]

/-! ## What conforming answers hold -/

/-- Conforming answers are of the sort that the fields of their key agree on. -/
theorem Conforms.isMultiple_eq {doc : Document} {answer : Answer}
    (h : answers.Conforms doc.fields) (hdoc : doc.ShapeConsistent)
    (hfield : field ∈ doc.fields) (hget : answers.get? field.label = some answer) :
    answer.isMultiple = field.spec.isCheckBoxes := by
  obtain ⟨other, hother, hlabel, hshape⟩ := h.declared _ _ hget
  rw [← hshape]
  exact Document.shapeConsistent_iff.1 hdoc other hother field hfield hlabel

/-- A conforming answer is a set exactly under the labels of check boxes. -/
theorem Conforms.isMultiple_iff {doc : Document} {key : String} {answer : Answer}
    (h : answers.Conforms doc.fields) (hdoc : doc.ShapeConsistent)
    (hget : answers.get? key = some answer) :
    answer.isMultiple = true ↔
      ∃ field ∈ doc.fields, field.label = key ∧ field.spec.isCheckBoxes = true := by
  constructor
  · intro hmultiple
    obtain ⟨field, hfield, hlabel, hshape⟩ := h.declared key answer hget
    rw [hmultiple] at hshape
    exact ⟨field, hfield, hlabel, hshape⟩
  · rintro ⟨field, hfield, rfl, hboxes⟩
    rw [h.isMultiple_eq hdoc hfield hget, hboxes]

/-- Conforming answers hold a set for check boxes whose two lists are written out. -/
theorem Conforms.exists_ticked {doc : Document} {flags : List Bool} {options : List String}
    (h : answers.Conforms doc.fields) (hdoc : doc.ShapeConsistent)
    (hfield : field ∈ doc.fields)
    (hspec : field.spec = .checkBoxes (.literal flags) (.literal options)) :
    ∃ ticked, answers.get? field.label = some (.multiple ticked) := by
  obtain ⟨answer, hget⟩ := Option.isSome_iff_exists.1 (h.present field hfield _ _ hspec)
  have hmultiple := h.isMultiple_eq hdoc hfield hget
  rw [hspec] at hmultiple
  cases answer with
  | single kind text => cases hmultiple
  | multiple ticked => exact ⟨ticked, hget⟩

/-- Conforming answers never lose a text to a tick. -/
theorem Conforms.applyNotices_eq {doc : Document} {edit : Edit}
    (h : answers.Conforms doc.fields) (hdoc : doc.ShapeConsistent)
    (hfield : field ∈ doc.fields) (hkey : field.label = edit.key)
    (hshape : field.spec.isCheckBoxes = edit.isTick) :
    answers.applyNotices edit = [.applied edit] := by
  cases edit with
  | text kind key value => rfl
  | tick key option checked =>
      obtain rfl : field.label = key := hkey
      have htext : answers.text? field.label = none := by
        unfold text?
        cases hget : answers.get? field.label with
        | none => rfl
        | some answer =>
            have hmultiple := h.isMultiple_eq hdoc hfield hget
            rw [hshape] at hmultiple
            cases answer with
            | single kind text => cases hmultiple
            | multiple options => rfl
      simp only [applyNotices, htext]

end Answers

end ProseForms
