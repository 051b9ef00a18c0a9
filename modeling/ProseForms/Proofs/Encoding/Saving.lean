import ProseForms.Proofs.Encoding.Answers
import ProseForms.Proofs.Encoding.Document

/-!
# Saving and loading

Documents, their parts, answers and edits lose nothing when they are saved as text and loaded
again.

* `Lossless` is what a type of saved values has to satisfy.  It speaks about every text that is
  read as a value, in whatever form the text spells it.
* A type is lossless when its values are restored and either fit when they are written again
  or never open many arrays and objects.
* `lossless_forms` says that all saved types are.
-/

namespace ProseForms.JsonForm

section

variable {α : Type} [JsonForm α]

/-- A text read as a value and written again. -/
def reencode? (α : Type) [JsonForm α] (text : String) : Option String :=
  (decode? text : Option α).map encode

/-- Whether values survive being saved and loaded. -/
structure Lossless (α : Type) [JsonForm α] : Prop where
  /-- A value is loaded from its text, unless it opens too many arrays and objects at once. -/
  decode?_encode : ∀ a : α, (toJson a).depth < 128 → decode? (encode a) = some a
  /-- What any text was read as is loaded again from its own text. -/
  decode?_encode_of_decode? : ∀ (text : String) (a : α),
    decode? text = some a → decode? (encode a) = some a
  /-- Writing a text again changes nothing from the second time on. -/
  reencode?_of_reencode? : ∀ text again : String,
    reencode? α text = some again → reencode? α again = some again

theorem decode?_encode_of_restored {a : α} (h : Restored toJson ofJson? a)
    (hdepth : (toJson a).depth < 128) : decode? (encode a) = some a := by
  rw [decode?, encode, Json.parse?_compact h.1]
  exact h.2 Json.maxOpen (Nat.le_of_lt_succ hdepth)

theorem lossless_of_depth (h : ∀ a : α, Restored toJson ofJson? a)
    (hdepth : ∀ (text : String) (a : α), decode? text = some a → (toJson a).depth < 128) :
    Lossless α where
  decode?_encode a := decode?_encode_of_restored (h a)
  decode?_encode_of_decode? text a htext :=
    decode?_encode_of_restored (h a) (hdepth text a htext)
  reencode?_of_reencode? text again htext := by
    obtain ⟨a, ha, rfl⟩ := Option.map_eq_some_iff.1 htext
    rw [reencode?, decode?_encode_of_restored (h a) (hdepth text a ha)]
    rfl

theorem lossless_of_fits (h : ∀ a : α, Restored toJson ofJson? a)
    (hfits : ∀ room, Fits (toJson : α → Json) ofJson? room) : Lossless α := by
  refine lossless_of_depth h fun text a htext => ?_
  obtain ⟨j, -, hj⟩ := Option.bind_eq_some_iff.1 htext
  exact Nat.lt_succ_of_le (hfits Json.maxOpen hj)

end

/-- Documents, their parts, answers and edits survive being saved and loaded.  Answers and edits
never open too many arrays and objects. -/
theorem lossless_forms :
    Lossless Document ∧ Lossless Block ∧ Lossless Inline ∧ Lossless FormField ∧
      Lossless Answers ∧ Lossless Answer ∧ Lossless Edit ∧
      (∀ answers : Answers, (toJson answers).depth < 128) ∧
      (∀ answer : Answer, (toJson answer).depth < 128) ∧
      ∀ edit : Edit, (toJson edit).depth < 128 := by
  have hanswers (answers : Answers) : (toJson answers).depth < 128 :=
    answers.depth_le.trans_lt (by decide)
  have hanswer (answer : Answer) : (toJson answer).depth < 128 :=
    answer.depth_le.trans_lt (by decide)
  have hedit (edit : Edit) : (toJson edit).depth < 128 := edit.depth_le.trans_lt (by decide)
  exact ⟨lossless_of_fits Document.restored fun _ => Document.fits,
    lossless_of_fits Block.restored fun _ => Block.fits,
    lossless_of_fits Inline.restored fun _ => Inline.fits,
    lossless_of_fits FormField.restored fun _ => FormField.fits,
    lossless_of_depth Answers.restored fun _ answers _ => hanswers answers,
    lossless_of_depth Answer.restored fun _ answer _ => hanswer answer,
    lossless_of_depth Edit.restored fun _ edit _ => hedit edit,
    hanswers, hanswer, hedit⟩

/-- A set of options that was spelled with one of them twice is written in order, and stays as it
is from then on. -/
theorem lossless_forms_repeatedOption :
    reencode? Answer "\x7b\"MultipleValues\": [\"y\", \"x\", \"y\"]\x7d" =
        some "\x7b\"MultipleValues\":[\"x\",\"y\"]\x7d" ∧
      reencode? Answer "\x7b\"MultipleValues\":[\"x\",\"y\"]\x7d" =
        some "\x7b\"MultipleValues\":[\"x\",\"y\"]\x7d" := by
  obtain ⟨-, -, -, -, -, hanswer, -⟩ := lossless_forms
  exact (and_iff_left_of_imp (hanswer.reencode?_of_reencode? _ _)).2 (by decide +kernel)

end ProseForms.JsonForm
