import Mathlib.Data.List.Chain
import Mathlib.Data.List.TakeWhile
import Mathlib.Tactic.FinCases
import ProseForms.Json.Scanner

/-!
# Scanning what was written

The texts of some tokens, written without white space, are scanned as these tokens, as
long as no two words stand next to each other.  A word is a literal or a number; it ends
where the next token starts, and every other token shows its own end.

* `Scan.after` is the state of the scanner behind some tokens, and `foldlM_step_chars`
  says that one more token leads from one such state to the next.
* `isNumber_toDigits` says that decimal digits are a number.
* `scan?_flatMap_chars` scans a row of tokens.
-/

namespace ProseForms.Json

/-! ## Numbers -/

/-- The characters that numbers consist of. -/
def isNumberChar (c : Char) : Bool :=
  c.isDigit || c = '-' || c = '+' || c = '.' || c = 'e' || c = 'E'

theorem endsWord_of_isNumberChar {c : Char} (h : isNumberChar c = true) :
    Scan.endsWord c = false := by
  by_contra hends
  have hmem : c ∈ ['[', ']', '\x7b', '\x7d', ',', ':', ' ', '\t', '\n', '\r', '"'] := by
    simp only [Scan.endsWord, Scan.isSpace, Bool.or_eq_true, decide_eq_true_eq,
      Bool.not_eq_false] at hends
    rcases hends with (hends | hends) | hends
    · unfold Scan.punctuation? at hends
      split at hends <;> simp_all
    · rcases hends with ((rfl | rfl) | rfl) | rfl <;> simp
    · simp [hends]
  fin_cases hmem <;> cases h

/-- What is dropped in front of a rest has only characters of numbers. -/
def DropsNumberChars (cs rest : List Char) : Prop :=
  ∃ dropped, cs = dropped ++ rest ∧ ∀ c ∈ dropped, isNumberChar c = true

namespace DropsNumberChars

theorem refl (cs : List Char) : DropsNumberChars cs cs :=
  ⟨[], rfl, fun _ h => nomatch h⟩

theorem trans {cs ds es : List Char} (h : DropsNumberChars cs ds)
    (h' : DropsNumberChars ds es) : DropsNumberChars cs es := by
  obtain ⟨first, rfl, hfirst⟩ := h
  obtain ⟨second, rfl, hsecond⟩ := h'
  refine ⟨first ++ second, (List.append_assoc ..).symm, fun c hc => ?_⟩
  rcases List.mem_append.1 hc with hc | hc
  · exact hfirst c hc
  · exact hsecond c hc

theorem cons {c : Char} {cs rest : List Char} (hc : isNumberChar c = true)
    (h : DropsNumberChars cs rest) : DropsNumberChars (c :: cs) rest := by
  obtain ⟨dropped, rfl, hdropped⟩ := h
  refine ⟨c :: dropped, rfl, fun d hd => ?_⟩
  rcases List.mem_cons.1 hd with rfl | hd
  · exact hc
  · exact hdropped d hd

theorem of_dropDigits? {cs rest : List Char} (h : dropDigits? cs = some rest) :
    DropsNumberChars cs rest := by
  cases cs with
  | nil => cases h
  | cons c cs =>
      simp only [dropDigits?] at h
      split at h
      · rename_i hdigit
        cases h
        refine .cons (by simp [isNumberChar, hdigit])
          ⟨cs.takeWhile Char.isDigit, List.takeWhile_append_dropWhile.symm, fun d hd => ?_⟩
        simp [isNumberChar, List.mem_takeWhile_imp hd]
      · cases h

theorem of_dropWhole? {cs rest : List Char} (h : dropWhole? cs = some rest) :
    DropsNumberChars cs rest := by
  unfold dropWhole? at h
  split at h
  · cases h
    exact .cons (by decide) (.refl _)
  · exact .of_dropDigits? h

theorem of_dropFraction? {cs rest : List Char} (h : dropFraction? cs = some rest) :
    DropsNumberChars cs rest := by
  unfold dropFraction? at h
  split at h
  · exact .cons (by decide) (.of_dropDigits? h)
  · cases h
    exact .refl _

theorem of_dropExponent? {cs rest : List Char} (h : dropExponent? cs = some rest) :
    DropsNumberChars cs rest := by
  have hletter : ∀ {c : Char}, c = 'e' ∨ c = 'E' → isNumberChar c = true := by
    rintro c (rfl | rfl) <;> decide
  revert h
  fun_cases dropExponent? cs with
  | case1 c hc digits | case2 c hc digits =>
      intro hsigned
      exact .cons (hletter hc) (.cons (by decide) (.of_dropDigits? hsigned))
  | case3 c hc digits =>
      intro hunsigned
      exact .cons (hletter hc) (.of_dropDigits? hunsigned)
  | case4 | case5 =>
      rintro ⟨⟩
      exact .refl _

end DropsNumberChars

/-- A number has only characters of numbers. -/
theorem isNumberChar_of_isNumber {word : List Char} (h : isNumber word = true) :
    ∀ c ∈ word, isNumberChar c = true := by
  have hdrops : DropsNumberChars word [] := by
    have hunsigned : ∀ {cs}, ((dropWhole? cs).bind dropFraction?).bind dropExponent? = some [] →
        DropsNumberChars cs [] := by
      intro cs hcs
      obtain ⟨_, hfraction, hexponent⟩ := Option.bind_eq_some_iff.1 hcs
      obtain ⟨_, hwhole, hfraction⟩ := Option.bind_eq_some_iff.1 hfraction
      exact (DropsNumberChars.of_dropWhole? hwhole).trans
        ((DropsNumberChars.of_dropFraction? hfraction).trans (.of_dropExponent? hexponent))
    unfold isNumber at h
    split at h
    · exact .cons (by decide) (hunsigned (of_decide_eq_true h))
    · exact hunsigned (of_decide_eq_true h)
  obtain ⟨dropped, rfl, hdropped⟩ := hdrops
  simpa using hdropped

theorem isNumber_ne_nil {word : List Char} (h : isNumber word = true) : word ≠ [] := by
  rintro rfl
  cases h

/-- The decimal digits of a positive number do not start with a zero. -/
theorem exists_first_toDigits {n : Nat} (h : 0 < n) :
    ∃ first rest, Nat.toDigits 10 n = first :: rest ∧ first ≠ '0' := by
  induction n using Nat.strongRecOn with
  | ind n ih =>
      rw [Nat.toDigits_eq_if (by decide)]
      split
      · rename_i hlt
        have hdigit : ∀ d < 10, 0 < d → Nat.digitChar d ≠ '0' := by decide
        exact ⟨_, [], rfl, hdigit n hlt h⟩
      · rename_i hge
        obtain ⟨first, rest, hfirst, hne⟩ := ih (n / 10) (by omega) (by omega)
        exact ⟨first, rest ++ [Nat.digitChar (n % 10)], by rw [hfirst]; rfl, hne⟩

/-- Decimal digits are a number. -/
theorem isNumber_toDigits (n : Nat) : isNumber (Nat.toDigits 10 n) = true := by
  have hdigits : ∀ c ∈ Nat.toDigits 10 n, c.isDigit = true := fun c hc =>
    Nat.isDigit_of_mem_toDigits (by decide) (by decide) hc
  rcases Nat.eq_zero_or_pos n with rfl | hpos
  · decide
  · obtain ⟨first, rest, hfirst, hzero⟩ := exists_first_toDigits hpos
    rw [hfirst] at hdigits ⊢
    have hdigit : first.isDigit = true := hdigits first List.mem_cons_self
    have hsign : first ≠ '-' := by
      rintro rfl
      cases hdigit
    have hrest : rest.dropWhile Char.isDigit = [] :=
      List.dropWhile_eq_nil_iff.2 fun c hc => hdigits c (List.mem_cons_of_mem first hc)
    have hwhole : dropWhole? (first :: rest) = some [] := by
      unfold dropWhole?
      split
      · rename_i heq
        exact absurd (List.cons.inj heq).1 hzero
      · rw [dropDigits?, if_pos hdigit, hrest]
    unfold isNumber
    split
    · rename_i heq
      exact absurd (List.cons.inj heq).1 hsign
    · simp [hwhole, dropFraction?, dropExponent?]

/-! ## Words -/

namespace Token

/-- Whether a token is a word, which the next token has to end. -/
def isWord : Token → Bool
  | .null | .bool _ | .number _ => true
  | .openArray | .closeArray | .openObject | .closeObject | .comma | .colon | .string _ => false

/-- Whether a token that is a number is spelled as one. -/
def Spelled : Token → Prop
  | .number spelling => isNumber spelling = true
  | _ => True

theorem ofWord?_chars {token : Token} (hword : token.isWord = true) (h : token.Spelled) :
    ofWord? token.chars = some token := by
  cases token with
  | null => rfl
  | bool value => cases value <;> rfl
  | number spelling =>
      have hnumber : isNumber spelling = true := h
      have hne : ∀ {word}, isNumber word = false → spelling ≠ word := by
        rintro word hword rfl
        rw [hnumber] at hword
        cases hword
      rw [chars, ofWord?, if_neg (hne (by decide)), if_neg (hne (by decide)),
        if_neg (hne (by decide)), if_pos hnumber]
  | openArray | closeArray | openObject | closeObject | comma | colon | string _ => cases hword

/-- A word is not empty and no character ends it. -/
theorem exists_chars_of_isWord {token : Token} (hword : token.isWord = true)
    (h : token.Spelled) :
    ∃ first rest, token.chars = first :: rest ∧
      ∀ c ∈ first :: rest, Scan.endsWord c = false := by
  cases token with
  | null =>
      exact ⟨_, _, rfl, by simp [Scan.endsWord, Scan.punctuation?, Scan.isSpace]⟩
  | bool value =>
      cases value <;>
        exact ⟨_, _, rfl, by simp [Scan.endsWord, Scan.punctuation?, Scan.isSpace]⟩
  | number spelling =>
      obtain ⟨first, rest, rfl⟩ := List.exists_cons_of_ne_nil (isNumber_ne_nil h)
      exact ⟨first, rest, rfl, fun c hc =>
        endsWord_of_isNumberChar (isNumberChar_of_isNumber h c hc)⟩
  | openArray | closeArray | openObject | closeObject | comma | colon | string _ => cases hword

/-- A token that is no word starts with a character that ends words. -/
theorem exists_first_of_not_isWord {token : Token} (hword : token.isWord = false) :
    ∃ first rest, token.chars = first :: rest ∧ Scan.endsWord first = true := by
  cases token with
  | null | bool _ | number _ => cases hword
  | string text => cases text <;> exact ⟨_, _, rfl, by decide⟩
  | openArray | closeArray | openObject | closeObject | comma | colon =>
      exact ⟨_, _, rfl, by decide⟩

end Token

/-! ## Strings -/

theorem hexValue?_hexDigit (n : Nat) : Text.hexValue? (Text.hexDigit n) = some (n % 16) := by
  have hdigit : ∀ d < 16, Text.hexValue? (Nat.digitChar d) = some d := by decide
  exact hdigit (n % 16) (Nat.mod_lt n (by decide))

/-- A written character is read as the character that it stands for. -/
theorem foldlM_step_stringChar (found : List Token) (spelling : Spelling) (c : Char) :
    (stringChar c).foldlM Scan.step ⟨found, .string spelling⟩ =
      some ⟨found, .string (spelling.push c)⟩ := by
  unfold stringChar
  split_ifs with hquote hbackslash hbackspace hfeed hnewline hreturn htab hcontrol
  · rw [hquote]
    rfl
  · rw [hbackslash]
    rfl
  · rw [hbackspace]
    rfl
  · rw [hfeed]
    rfl
  · rw [hnewline]
    rfl
  · rw [hreturn]
    rfl
  · rw [htab]
    rfl
  · -- The number of a control character has two digits that matter.
    have hvalue : 16 * (c.toNat / 16 % 16) + c.toNat % 16 = c.toNat := by omega
    have hunit : spelling.pushUnit c.toNat = spelling.push c := by
      unfold Spelling.pushUnit
      rw [if_neg (by omega), if_neg (by omega), Char.ofNat_toNat]
    have hzero : Text.hexValue? '0' = some 0 := by decide
    simp [Scan.step, hzero, hexValue?_hexDigit, hvalue, hunit]
  · simp [Scan.step, hquote, hbackslash, hcontrol]

/-- The characters of a string are read one after the other. -/
theorem foldlM_step_flatMap_stringChar (found : List Token) (cs read : List Char) :
    (cs.flatMap stringChar).foldlM Scan.step ⟨found, .string ⟨read, none, false⟩⟩ =
      some ⟨found, .string ⟨cs.reverse ++ read, none, false⟩⟩ := by
  induction cs generalizing read with
  | nil => rfl
  | cons c cs ih =>
      have hpush : Spelling.push ⟨read, none, false⟩ c = ⟨c :: read, none, false⟩ := rfl
      rw [List.flatMap_cons, List.foldlM_append, foldlM_step_stringChar, hpush,
        List.reverse_cons, List.append_assoc]
      exact ih (c :: read)

/-- A written string is read as one token. -/
theorem foldlM_step_string (found : List Token) (text : Option String) :
    (Token.string text).chars.foldlM Scan.step ⟨found, .between⟩ =
      some ⟨.string text :: found, .between⟩ := by
  cases text with
  | none => rfl
  | some text =>
      have htext : Spelling.text? ⟨text.toList.reverse ++ [], none, false⟩ = some text := by
        simp [Spelling.text?]
      show (text.toList.flatMap stringChar ++ ['"']).foldlM Scan.step
        ⟨found, .string ⟨[], none, false⟩⟩ = _
      rw [List.foldlM_append, foldlM_step_flatMap_stringChar]
      show some (⟨.string (Spelling.text? _) :: found, .between⟩ : Scan) = _
      rw [htext]

/-! ## Rows of tokens -/

/-- Whether one of two tokens shows where the first one ends. -/
def Token.Separate (first second : Token) : Prop :=
  first.isWord = false ∨ second.isWord = false

namespace Scan

/-- The state of the scanner behind some tokens, last one first.  A word is not found
before something ends it. -/
def after : List Token → Scan
  | [] => ⟨[], .between⟩
  | token :: found =>
      if token.isWord then ⟨found, .word token.chars.reverse⟩ else ⟨token :: found, .between⟩

theorem foldlM_step_word (found : List Token) (read : List Char) {cs : List Char}
    (h : ∀ c ∈ cs, endsWord c = false) :
    cs.foldlM step ⟨found, .word read⟩ = some ⟨found, .word (cs.reverse ++ read)⟩ := by
  induction cs generalizing read with
  | nil => rfl
  | cons c cs ih =>
      have hstep : step ⟨found, .word read⟩ c = some ⟨found, .word (c :: read)⟩ :=
        if_neg (Bool.eq_false_iff.1 (h c List.mem_cons_self))
      rw [List.foldlM_cons, hstep, List.reverse_cons, List.append_assoc]
      exact ih (c :: read) fun d hd => h d (List.mem_cons_of_mem c hd)

theorem begin_of_not_endsWord (found : List Token) {c : Char} (h : endsWord c = false) :
    begin found c = ⟨found, .word [c]⟩ := by
  simp only [endsWord, Bool.or_eq_false_iff, decide_eq_false_iff_not] at h
  obtain ⟨⟨hpunctuation, hspace⟩, hquote⟩ := h
  have hnone : punctuation? c = none := by simpa using hpunctuation
  simp [begin, hnone, hspace, hquote]

/-- Between tokens, the characters of a token lead behind it. -/
theorem foldlM_step_chars_between (found : List Token) {token : Token} (h : token.Spelled) :
    token.chars.foldlM step ⟨found, .between⟩ = some (after (token :: found)) := by
  cases hword : token.isWord with
  | true =>
      obtain ⟨first, rest, hchars, hends⟩ := Token.exists_chars_of_isWord hword h
      have hfirst : step ⟨found, .between⟩ first = some ⟨found, .word [first]⟩ :=
        congrArg some (begin_of_not_endsWord found (hends first List.mem_cons_self))
      rw [after, if_pos hword, hchars, List.foldlM_cons, hfirst, List.reverse_cons]
      exact foldlM_step_word found [first] fun c hc => hends c (List.mem_cons_of_mem first hc)
  | false =>
      cases token with
      | null | bool _ | number _ => cases hword
      | string text => exact foldlM_step_string found text
      | openArray | closeArray | openObject | closeObject | comma | colon => rfl

/-- The characters of a token lead from behind one token to behind the next. -/
theorem foldlM_step_chars {found : List Token} {token : Token} (h : token.Spelled)
    (hfound : ∀ last ∈ found.head?, last.Spelled ∧ last.Separate token) :
    token.chars.foldlM step (after found) = some (after (token :: found)) := by
  rw [← foldlM_step_chars_between found h]
  cases found with
  | nil => rfl
  | cons last found =>
      obtain ⟨hlast, hseparate⟩ := hfound last rfl
      cases hword : last.isWord with
      | false => simp [after, hword]
      | true =>
          -- The word is found when the first character of the token ends it.
          have htoken : token.isWord = false := by
            rcases hseparate with hfalse | hfalse
            · rw [hword] at hfalse
              cases hfalse
            · exact hfalse
          obtain ⟨first, rest, hchars, hends⟩ := Token.exists_first_of_not_isWord htoken
          have hstep : step (after (last :: found)) first =
              step ⟨last :: found, .between⟩ first := by
            simp [after, hword, step, hends, Token.ofWord?_chars hword hlast]
          rw [hchars, List.foldlM_cons, List.foldlM_cons, hstep]

/-- The characters of some tokens lead behind them. -/
theorem foldlM_step_flatMap_chars {tokens found : List Token}
    (hspelled : ∀ token ∈ tokens, token.Spelled) (hchain : tokens.IsChain Token.Separate)
    (hfound : ∀ last ∈ found.head?, last.Spelled ∧
      ∀ token ∈ tokens.head?, last.Separate token) :
    (tokens.flatMap Token.chars).foldlM step (after found) =
      some (after (tokens.reverse ++ found)) := by
  induction tokens generalizing found with
  | nil => rfl
  | cons token tokens ih =>
      have htoken := hspelled token List.mem_cons_self
      obtain ⟨hnext, hrest⟩ := List.isChain_cons.1 hchain
      have hstep := foldlM_step_chars htoken fun last hlast =>
        ⟨(hfound last hlast).1, (hfound last hlast).2 token rfl⟩
      rw [List.flatMap_cons, List.foldlM_append, hstep, List.reverse_cons, List.append_assoc]
      refine ih (fun other hother => hspelled other (List.mem_cons_of_mem token hother)) hrest ?_
      rintro _ ⟨⟩
      exact ⟨htoken, hnext⟩

theorem finish_after {found : List Token} (h : ∀ last ∈ found.head?, last.Spelled) :
    (after found).finish = some found.reverse := by
  cases found with
  | nil => rfl
  | cons last found =>
      cases hword : last.isWord with
      | false => simp [after, hword, finish]
      | true => simp [after, hword, finish, Token.ofWord?_chars hword (h last rfl)]

end Scan

/-- The texts of some tokens, no two of them words next to each other, are scanned as these
tokens. -/
theorem scan?_flatMap_chars {tokens : List Token} (hspelled : ∀ token ∈ tokens, token.Spelled)
    (hchain : tokens.IsChain Token.Separate) :
    scan? (tokens.flatMap Token.chars) = some tokens := by
  have hfold : (tokens.flatMap Token.chars).foldlM Scan.step (Scan.after []) =
      some (Scan.after (tokens.reverse ++ [])) :=
    Scan.foldlM_step_flatMap_chars hspelled hchain fun _ hlast => nomatch hlast
  have hfinish : (Scan.after (tokens.reverse ++ [])).finish = some tokens := by
    rw [Scan.finish_after, List.append_nil, List.reverse_reverse]
    intro last hlast
    rw [List.append_nil] at hlast
    exact hspelled last (List.mem_reverse.1 (List.mem_of_mem_head? hlast))
  show ((tokens.flatMap Token.chars).foldlM Scan.step (Scan.after [])).bind Scan.finish = _
  rw [hfold]
  exact hfinish

end ProseForms.Json
