import ProseForms.Encoding.Field
import ProseForms.Proofs.Encoding.Restored

/-!
# Form fields are restored

Encoded form fields are read back, and what was read as a form field fits when it is written
again.  A default that was left out is written as a null, which opens nothing.
-/

namespace ProseForms

namespace InputKind

theorem restored (kind : InputKind) :
    Restored JsonForm.toJson JsonForm.ofJson? kind := by
  cases kind <;> exact ⟨Json.spelled_text _, fun _ _ => rfl⟩

theorem fits {room : Nat} : Fits (JsonForm.toJson : InputKind → Json) JsonForm.ofJson? room :=
  fun _ _ _ => Nat.zero_le room

end InputKind

namespace Source

variable {α : Type} {literal : α → Json} {literal? : Nat → Json → Option α} {room : Nat}

theorem restored {source : Source α} (h : ∀ a, Restored literal literal? a) :
    Restored (toJson literal) (ofJson? literal?) source := by
  cases source with
  | literal a => exact (h a).tagged rfl fun _ _ => rfl
  | code text => exact (restored_text text).tagged rfl fun _ _ => rfl

theorem fits (h : Fits literal literal? (room - 1)) :
    Fits (toJson literal) (ofJson? literal?) room := by
  intro j source hread
  obtain ⟨inner, rfl, hsource⟩ := Json.opening_eq_some_iff.1 hread
  split at hsource
  · exact h.tagged hsource fun _ => rfl
  · exact fits_text.tagged hsource fun _ => rfl
  · cases hsource

theorem ofNullable?_eq : ofNullable? = Json.nullable? (ofJson? Json.leafText?) := by
  funext room j
  cases j <;> rfl

theorem restored_nullable (default : Option (Source String)) :
    Restored (Json.ofOption (toJson .text)) ofNullable? default := by
  rw [ofNullable?_eq]
  refine Restored.nullable (fun _ _ => restored restored_text) fun source => ?_
  cases source <;> nofun

theorem fits_nullable : Fits (Json.ofOption (toJson .text)) ofNullable? room := by
  rw [ofNullable?_eq]
  exact (fits fits_text).nullable

end Source

namespace FieldSpec

theorem restored_options (options : Source (List String)) :
    Restored (Source.toJson (Json.ofList .text)) options? options :=
  Source.restored fun _ => .list fun s _ => restored_text s

theorem fits_options {room : Nat} :
    Fits (Source.toJson (Json.ofList .text)) options? room :=
  Source.fits (Fits.list fits_text)

theorem restored (spec : FieldSpec) :
    Restored JsonForm.toJson JsonForm.ofJson? spec := by
  cases spec with
  | textBox kind default =>
      exact kind.restored.taggedPair (Source.restored_nullable default)
        (Json.isPair_record "kind" "default") rfl fun _ _ _ => rfl
  | radioButtons default options =>
      exact (Source.restored restored_text).taggedPair (restored_options options)
        (Json.isPair_record "default" "options") rfl fun _ _ _ => rfl
  | checkBoxes flags options =>
      exact (Source.restored fun _ => .list fun value _ => restored_bool value).taggedPair
        (restored_options options) (Json.isPair_record "checked" "options") rfl
        fun _ _ _ => rfl
  | dropDown options default =>
      exact (restored_options options).taggedPair (Source.restored_nullable default)
        (Json.isPair_record "options" "default") rfl fun _ _ _ => rfl

theorem fits {room : Nat} : Fits (JsonForm.toJson : FieldSpec → Json) JsonForm.ofJson? room := by
  intro j spec hread
  obtain ⟨_, rfl, htagged⟩ := Json.opening_eq_some_iff.1 hread
  obtain ⟨⟨type, content⟩, -, hcontent⟩ := Option.bind_eq_some_iff.1 htagged
  obtain ⟨inner, rfl, hparts⟩ := Json.opening_eq_some_iff.1 hcontent
  revert hparts
  fun_cases ofParts? inner type content with
  | case1 kind default =>
      intro htextBox
      exact InputKind.fits.taggedPair Source.fits_nullable (Json.isPair_record "kind" "default")
        htextBox fun _ _ => rfl
  | case3 default options =>
      intro hradioButtons
      exact (Source.fits fits_text).taggedPair fits_options
        (Json.isPair_record "default" "options") hradioButtons fun _ _ => rfl
  | case5 flags options =>
      intro hcheckBoxes
      exact (Source.fits (Fits.list fits_bool)).taggedPair fits_options
        (Json.isPair_record "checked" "options") hcheckBoxes fun _ _ => rfl
  | case7 options default =>
      intro hdropDown
      exact fits_options.taggedPair Source.fits_nullable (Json.isPair_record "options" "default")
        hdropDown fun _ _ => rfl
  | case2 | case4 | case6 | case8 | case9 => nofun

end FieldSpec

namespace FormField

theorem restored (field : FormField) :
    Restored JsonForm.toJson JsonForm.ofJson? field := by
  have hspec := field.spec.restored
  constructor
  · exact Json.spelled_record.2 (by
      simp [Json.spelled_text, Json.spelled_bool, hspec.1])
  · intro room hroom
    obtain ⟨inner, rfl, hparts⟩ := Json.depth_record_le.1 hroom
    have hdepth : (JsonForm.toJson field.spec).depth ≤ inner :=
      hparts ("spec", _) (by simp)
    show ((JsonForm.ofJson? inner (JsonForm.toJson field.spec)).bind fun spec =>
      some (⟨field.label, field.required, spec⟩ : FormField)) = some field
    rw [hspec.2 inner hdepth]
    rfl

theorem fits {room : Nat} : Fits (JsonForm.toJson : FormField → Json) JsonForm.ofJson? room := by
  intro j field hread
  obtain ⟨inner, rfl, hparts⟩ := Json.opening_eq_some_iff.1 hread
  split at hparts
  · obtain ⟨label, -, hafter⟩ := Option.bind_eq_some_iff.1 hparts
    obtain ⟨required, -, hlast⟩ := Option.bind_eq_some_iff.1 hafter
    obtain ⟨spec, hspec, hfield⟩ := Option.bind_eq_some_iff.1 hlast
    cases hfield
    refine Json.depth_record_le.2 ⟨inner, rfl, ?_⟩
    simpa using FieldSpec.fits hspec
  · cases hparts

end FormField

end ProseForms
