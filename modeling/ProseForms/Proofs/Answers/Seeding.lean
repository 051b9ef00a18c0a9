import ProseForms.Answers.Defaults
import ProseForms.Proofs.Document.Order

/-!
# Where the first answers come from

The answers that a document starts with are its defaults: under every label that of the
last field, in document order, whose default is written out.

* `Document.get?_initialAnswers` gives the answer under a key as the last default along the
  fields, and `get?_initialAnswers_iff` says which field that is.
* `FieldSpec.initialAnswer?_isSome_iff` compares the fields that have a default with the
  fields that can be shown.  The two tests differ in one respect: a radio group or a drop
  down whose options are code has its default all the same.
-/

namespace ProseForms

/-! ## The last default counts -/

/-- The default of a field, if the field is one of a key. -/
def FormField.defaultFor? (key : String) (field : FormField) : Option Answer :=
  if field.label = key then field.spec.initialAnswer? else none

theorem FormField.defaultFor?_eq_some_iff {key : String} {field : FormField} {answer : Answer} :
    field.defaultFor? key = some answer ↔
      field.label = key ∧ field.spec.initialAnswer? = some answer := by
  unfold defaultFor?
  split <;> simp_all

theorem FormField.defaultFor?_label (field : FormField) :
    field.defaultFor? field.label = field.spec.initialAnswer? :=
  if_pos rfl

theorem FormField.defaultFor?_eq_none_iff {key : String} {field : FormField} :
    field.defaultFor? key = none ↔
      (field.label = key → field.spec.initialAnswer? = none) := by
  unfold defaultFor?
  split <;> simp_all

namespace Answers

theorem get?_seed (answers : Answers) (field : FormField) (key : String) :
    (answers.seed field).get? key = (field.defaultFor? key).or (answers.get? key) := by
  unfold seed FormField.defaultFor?
  cases hanswer : field.spec.initialAnswer? with
  | none => simp
  | some answer =>
      show (answers.insert field.label answer).get? key = _
      rw [get?_insert]
      split <;> rfl

theorem get?_foldl_seed (answers : Answers) (fields : List FormField) (key : String) :
    (fields.foldl seed answers).get? key =
      ((fields.filterMap (·.defaultFor? key)).getLast?).or (answers.get? key) := by
  induction fields generalizing answers with
  | nil => rfl
  | cons field rest ih =>
      rw [List.foldl_cons, ih, get?_seed]
      cases hdefault : field.defaultFor? key with
      | none => rw [List.filterMap_cons_none hdefault, Option.none_or]
      | some answer =>
          rw [List.filterMap_cons_some hdefault, List.getLast?_cons]
          cases (rest.filterMap (·.defaultFor? key)).getLast? <;> rfl

end Answers

namespace Document

/-- The answer under a key is the last default of a field of the key. -/
theorem get?_initialAnswers (doc : Document) (key : String) :
    doc.initialAnswers.get? key = (doc.fields.filterMap (·.defaultFor? key)).getLast? := by
  rw [initialAnswers, Answers.get?_foldl_seed, Answers.get?_empty, Option.or_none]

/-- The answer under a key is the default of the field of the key that has one and after
which, in document order, no other has.  Without such a field there is no answer. -/
theorem get?_initialAnswers_iff (doc : Document) (key : String) :
    (∀ answer, doc.initialAnswers.get? key = some answer ↔
      ∃ position field, doc.fieldAt? position = some field ∧ field.label = key ∧
        field.spec.initialAnswer? = some answer ∧
        ∀ later other, doc.fieldAt? later = some other → position < later →
          other.label = key → other.spec.initialAnswer? = none) ∧
    (doc.initialAnswers.get? key = none ↔
      ∀ position field, doc.fieldAt? position = some field → field.label = key →
        field.spec.initialAnswer? = none) := by
  constructor
  · intro answer
    rw [get?_initialAnswers, doc.enumerates_fields.getLast?_eq_some_iff]
    simp only [FormField.defaultFor?_eq_some_iff, FormField.defaultFor?_eq_none_iff, and_assoc]
  · rw [get?_initialAnswers, List.getLast?_eq_none_iff, List.filterMap_eq_nil_iff]
    simp only [doc.enumerates_fields.mem_iff, FormField.defaultFor?_eq_none_iff,
      forall_exists_index]
    exact forall_comm

end Document

/-! ## Defaults of fields that cannot be shown -/

/-- Whether a field is a radio group or a drop down whose default is written out while its
options are code. -/
def FieldSpec.lacksOnlyOptions : FieldSpec → Bool
  | .radioButtons (.literal _) (.code _) | .dropDown (.code _) (some (.literal _)) => true
  | .radioButtons .. | .dropDown .. | .textBox .. | .checkBoxes .. => false

/-- A field that cannot be shown has a default if it lacks nothing but its options. -/
theorem FieldSpec.initialAnswer?_isSome_iff {spec : FieldSpec} (h : spec.control? = none) :
    spec.initialAnswer?.isSome = true ↔ spec.lacksOnlyOptions = true := by
  cases spec with
  | textBox kind default => cases h
  | radioButtons default options =>
      cases default <;> cases options <;>
        simp_all [control?, initialAnswer?, lacksOnlyOptions]
  | checkBoxes flags options =>
      cases flags <;> cases options <;> simp_all [control?, initialAnswer?, lacksOnlyOptions]
  | dropDown options default =>
      rcases options with _ | _ <;> rcases default with _ | _ | _ <;>
        simp_all [control?, initialAnswer?, lacksOnlyOptions]

theorem Answers.exists_seed_ne_iff {field : FormField} :
    (∃ answers : Answers, answers.seed field ≠ answers) ↔
      field.spec.initialAnswer?.isSome = true := by
  unfold seed
  cases field.spec.initialAnswer? with
  | none => simp
  | some answer =>
      refine iff_of_true ⟨.empty, fun h => ?_⟩ rfl
      have hget := congrArg (get? · field.label) h
      rw [get?_insert, if_pos rfl, get?_empty] at hget
      cases hget

namespace Document

/-- Every first answer comes from a field that can be shown, or that lacks nothing for it
but its options; and a field that cannot be shown gives an answer only if it lacks nothing
but its options. -/
theorem exists_field_of_initialAnswers (doc : Document) :
    (∀ key answer, doc.initialAnswers.get? key = some answer →
      ∃ field ∈ doc.fields, field.label = key ∧ field.spec.initialAnswer? = some answer ∧
        (field.spec.control?.isSome = true ∨ field.spec.lacksOnlyOptions = true)) ∧
    ∀ field ∈ doc.fields, field.spec.control? = none →
      ((∃ answers : Answers, answers.seed field ≠ answers) ↔
        field.spec.lacksOnlyOptions = true) := by
  constructor
  · intro key answer hget
    rw [get?_initialAnswers] at hget
    obtain ⟨field, hfield, hdefault⟩ := List.mem_filterMap.1 (List.mem_of_getLast? hget)
    obtain ⟨hlabel, hanswer⟩ := FormField.defaultFor?_eq_some_iff.1 hdefault
    refine ⟨field, hfield, hlabel, hanswer, ?_⟩
    cases hcontrol : field.spec.control? with
    | some control => exact Or.inl rfl
    | none => exact Or.inr ((FieldSpec.initialAnswer?_isSome_iff hcontrol).1 (hanswer ▸ rfl))
  · intro field _ hcontrol
    rw [Answers.exists_seed_ne_iff, FieldSpec.initialAnswer?_isSome_iff hcontrol]

/-- A drop down in the body of an image lacks its options, a radio group its default. -/
theorem exists_field_of_initialAnswers_dropDown :
    let size : FormField :=
      ⟨"Size", false, .dropDown (.code "sizes()") (some (.literal "M"))⟩
    let color : FormField :=
      ⟨"Color", true, .radioButtons (.code "color()") (.literal ["Red", "Blue"])⟩
    let doc : Document := ⟨[.paragraph [.image [.formField size] "u", .formField color]]⟩
    doc.initialAnswers.get? "Size" = some (.single .plainText "M") ∧
      color ∈ doc.fields ∧ color.spec.control? = none ∧
      (∃ field ∈ doc.fields, field.label = "Size" ∧
        field.spec.initialAnswer? = some (.single .plainText "M") ∧
        (field.spec.control?.isSome = true ∨ field.spec.lacksOnlyOptions = true)) ∧
      ¬ ∃ answers : Answers, answers.seed color ≠ answers := by
  intro size color doc
  have hget : doc.initialAnswers.get? "Size" = some (.single .plainText "M") := by decide
  have hcolor : color ∈ doc.fields := by decide
  have hhidden : color.spec.control? = none := rfl
  obtain ⟨hsource, hseeds⟩ := exists_field_of_initialAnswers doc
  refine ⟨hget, hcolor, hhidden, hsource "Size" _ hget, fun h => ?_⟩
  exact absurd ((hseeds color hcolor hhidden).1 h) (by decide)

/-- A radio group with a default, whose options are code, has an answer that no control
shows. -/
theorem initialAnswers_of_hiddenRadios :
    ¬ ∀ (doc : Document) (key : String), doc.initialAnswers.contains key = true →
      ∃ field ∈ doc.fields, field.label = key ∧ field.spec.control?.isSome = true := by
  intro h
  have hsize := h ⟨[.paragraph [.formField
    ⟨"Size", false, .radioButtons (.literal "M") (.code "sizes()")⟩]]⟩ "Size" (by decide)
  exact absurd hsize (by decide)

end Document

end ProseForms
