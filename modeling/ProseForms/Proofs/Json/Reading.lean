import ProseForms.Json.Reader
import ProseForms.Proofs.Json.Scanning

/-!
# Reading what was written

A value whose numbers are spelled as numbers is read back from its compact text.

* `Json.Spelled` says that the numbers of a value are numbers; `spelled_array` and
  `spelled_object` lead it back to the parts.
* `isChain_tokens` keeps the words among the tokens of a value apart.
* `foldlM_step_tokens` reads the tokens of a value inside any open arrays and objects.
* `parse?_compact` puts the scanner and the reader together.
-/

namespace ProseForms.Json

/-! ## Spelling -/

/-- Whether all numbers in a value are spelled as numbers. -/
def Spelled (j : Json) : Prop :=
  ∀ token ∈ j.tokens, token.Spelled

theorem spelled_null : Spelled .null := by
  simp [Spelled, tokens, Token.Spelled]

theorem spelled_bool (value : Bool) : Spelled (.bool value) := by
  simp [Spelled, tokens, Token.Spelled]

theorem spelled_text (s : String) : (text s).Spelled := by
  simp [Spelled, text, tokens, Token.Spelled]

theorem spelled_nat (n : Nat) : (nat n).Spelled := by
  simp [Spelled, nat, tokens, Token.Spelled, isNumber_toDigits]

theorem forall_mem_moreItemTokens {items : List Json} :
    (∀ token ∈ moreItemTokens items, token.Spelled) ↔ ∀ item ∈ items, item.Spelled := by
  induction items with
  | nil => simp [moreItemTokens, Token.Spelled]
  | cons item rest ih =>
      simp only [moreItemTokens, List.forall_mem_cons, List.forall_mem_append, ih]
      simp [Token.Spelled, Spelled]

theorem spelled_array {items : List Json} :
    Spelled (.array items) ↔ ∀ item ∈ items, item.Spelled := by
  cases items with
  | nil => simp [Spelled, tokens, itemTokens, Token.Spelled]
  | cons item rest =>
      simp only [Spelled, tokens, itemTokens, List.forall_mem_cons, List.forall_mem_append,
        forall_mem_moreItemTokens]
      simp [Token.Spelled]

theorem forall_mem_moreEntryTokens {entries : List (Option String × Json)} :
    (∀ token ∈ moreEntryTokens entries, token.Spelled) ↔
      ∀ entry ∈ entries, entry.2.Spelled := by
  induction entries with
  | nil => simp [moreEntryTokens, Token.Spelled]
  | cons entry rest ih =>
      obtain ⟨key, value⟩ := entry
      simp only [moreEntryTokens, List.forall_mem_cons, List.forall_mem_append, ih]
      simp [Token.Spelled, Spelled]

theorem spelled_object {entries : List (Option String × Json)} :
    Spelled (.object entries) ↔ ∀ entry ∈ entries, entry.2.Spelled := by
  cases entries with
  | nil => simp [Spelled, tokens, entryTokens, Token.Spelled]
  | cons entry rest =>
      obtain ⟨key, value⟩ := entry
      simp only [Spelled, tokens, entryTokens, List.forall_mem_cons, List.forall_mem_append,
        forall_mem_moreEntryTokens]
      simp [Token.Spelled]

theorem spelled_ofList {α : Type} {item : α → Json} {items : List α} :
    (ofList item items).Spelled ↔ ∀ a ∈ items, (item a).Spelled := by
  simp [ofList, spelled_array]

theorem spelled_tagged {name : String} {content : Json} :
    (tagged name content).Spelled ↔ content.Spelled := by
  simp [tagged, spelled_object]

theorem spelled_record {entries : List (String × Json)} :
    (record entries).Spelled ↔ ∀ entry ∈ entries, entry.2.Spelled := by
  rw [record, spelled_object, List.forall_mem_map]

/-! ## Words stand apart -/

/-- A token that is no word stands apart from the row behind it. -/
theorem isChain_cons_of_not_isWord {token : Token} {rest : List Token}
    (hword : token.isWord = false) (h : rest.IsChain Token.Separate) :
    (token :: rest).IsChain Token.Separate :=
  List.isChain_cons.2 ⟨fun _ _ => .inl hword, h⟩

/-- Two rows stand apart when the second does not start with a word. -/
theorem isChain_append_of_not_isWord {first second : List Token}
    (hfirst : first.IsChain Token.Separate) (hsecond : second.IsChain Token.Separate)
    (hword : ∀ token ∈ second.head?, token.isWord = false) :
    (first ++ second).IsChain Token.Separate :=
  List.isChain_append.2 ⟨hfirst, hsecond, fun _ _ token htoken => .inr (hword token htoken)⟩

theorem not_isWord_of_mem_head?_moreItemTokens (items : List Json) :
    ∀ token ∈ (moreItemTokens items).head?, token.isWord = false := by
  cases items <;> rintro _ ⟨⟩ <;> rfl

theorem not_isWord_of_mem_head?_moreEntryTokens (entries : List (Option String × Json)) :
    ∀ token ∈ (moreEntryTokens entries).head?, token.isWord = false := by
  cases entries <;> rintro _ ⟨⟩ <;> rfl

mutual

/-- No two words stand next to each other among the tokens of a value. -/
theorem isChain_tokens : ∀ j : Json, j.tokens.IsChain Token.Separate
  | .null | .bool _ | .number _ | .string _ => .singleton _
  | .array [] => isChain_cons_of_not_isWord rfl (.singleton _)
  | .array (item :: rest) =>
      isChain_cons_of_not_isWord rfl (isChain_append_of_not_isWord (isChain_tokens item)
        (isChain_moreItemTokens rest) (not_isWord_of_mem_head?_moreItemTokens rest))
  | .object [] => isChain_cons_of_not_isWord rfl (.singleton _)
  | .object ((_, value) :: rest) =>
      isChain_cons_of_not_isWord rfl (isChain_cons_of_not_isWord rfl
        (isChain_cons_of_not_isWord rfl (isChain_append_of_not_isWord (isChain_tokens value)
          (isChain_moreEntryTokens rest) (not_isWord_of_mem_head?_moreEntryTokens rest))))
termination_by structural value => value

theorem isChain_moreItemTokens : ∀ items, (moreItemTokens items).IsChain Token.Separate
  | [] => .singleton _
  | item :: rest =>
      isChain_cons_of_not_isWord rfl (isChain_append_of_not_isWord (isChain_tokens item)
        (isChain_moreItemTokens rest) (not_isWord_of_mem_head?_moreItemTokens rest))
termination_by structural items => items

theorem isChain_moreEntryTokens : ∀ entries, (moreEntryTokens entries).IsChain Token.Separate
  | [] => .singleton _
  | (_, value) :: rest =>
      isChain_cons_of_not_isWord rfl (isChain_cons_of_not_isWord rfl
        (isChain_cons_of_not_isWord rfl (isChain_append_of_not_isWord (isChain_tokens value)
          (isChain_moreEntryTokens rest) (not_isWord_of_mem_head?_moreEntryTokens rest))))
termination_by structural entries => entries

end

/-! ## The reader -/

/-- Where an array has just been opened, a first item is read like any later one. -/
theorem foldlM_step_firstItem (frames : List Frame) (item : Json) (rest : List Token) :
    (item.tokens ++ rest).foldlM Reading.step ⟨frames, .firstItem⟩ =
      (item.tokens ++ rest).foldlM Reading.step ⟨.array [] :: frames, .value⟩ := by
  cases item <;> rfl

mutual

/-- The tokens of a value are read as this value, inside any open arrays and objects. -/
theorem foldlM_step_tokens (frames : List Frame) : ∀ j : Json,
    j.tokens.foldlM Reading.step ⟨frames, .value⟩ = some ⟨frames, .more j⟩
  | .null | .bool _ | .number _ | .string _ => rfl
  | .array [] => rfl
  | .array (item :: rest) => by
      show (item.tokens ++ moreItemTokens rest).foldlM Reading.step ⟨frames, .firstItem⟩ = _
      rw [foldlM_step_firstItem, List.foldlM_append, foldlM_step_tokens _ item]
      exact foldlM_step_moreItemTokens frames [] item rest
  | .object [] => rfl
  | .object ((key, value) :: rest) => by
      show (value.tokens ++ moreEntryTokens rest).foldlM Reading.step
        ⟨.object [] key :: frames, .value⟩ = _
      rw [List.foldlM_append, foldlM_step_tokens _ value]
      exact foldlM_step_moreEntryTokens frames [] key value rest
termination_by structural value => value

/-- The tokens behind an item are read as the rest of its array. -/
theorem foldlM_step_moreItemTokens (frames : List Frame) (read : List Json) (last : Json) :
    ∀ items, (moreItemTokens items).foldlM Reading.step ⟨.array read :: frames, .more last⟩ =
      some ⟨frames, .more (.array (read.reverse ++ last :: items))⟩
  | [] => by
      show some (⟨frames, .more (.array (last :: read).reverse)⟩ : Reading) = _
      rw [List.reverse_cons]
  | item :: rest => by
      show (item.tokens ++ moreItemTokens rest).foldlM Reading.step
        ⟨.array (last :: read) :: frames, .value⟩ = _
      rw [List.foldlM_append, foldlM_step_tokens _ item]
      have hrest := foldlM_step_moreItemTokens frames (last :: read) item rest
      rwa [List.reverse_cons, List.append_assoc] at hrest
termination_by structural items => items

/-- The tokens behind an entry are read as the rest of its object. -/
theorem foldlM_step_moreEntryTokens (frames : List Frame)
    (read : List (Option String × Json)) (key : Option String) (last : Json) : ∀ entries,
    (moreEntryTokens entries).foldlM Reading.step ⟨.object read key :: frames, .more last⟩ =
      some ⟨frames, .more (.object (read.reverse ++ (key, last) :: entries))⟩
  | [] => by
      show some (⟨frames, .more (.object ((key, last) :: read).reverse)⟩ : Reading) = _
      rw [List.reverse_cons]
  | (next, value) :: rest => by
      show (value.tokens ++ moreEntryTokens rest).foldlM Reading.step
        ⟨.object ((key, last) :: read) next :: frames, .value⟩ = _
      rw [List.foldlM_append, foldlM_step_tokens _ value]
      have hrest := foldlM_step_moreEntryTokens frames ((key, last) :: read) next value rest
      rwa [List.reverse_cons, List.append_assoc] at hrest
termination_by structural entries => entries

end

theorem ofTokens?_tokens (j : Json) : ofTokens? j.tokens = some j := by
  unfold ofTokens?
  rw [foldlM_step_tokens [] j]
  rfl

/-- A value is read back from its text. -/
theorem parse?_compact {j : Json} (h : j.Spelled) : parse? j.compact = some j := by
  have hscan : scan? j.compact.toList = some j.tokens := by
    rw [compact, String.toList_ofList]
    exact scan?_flatMap_chars h (isChain_tokens j)
  rw [parse?, hscan]
  exact ofTokens?_tokens j

end ProseForms.Json
