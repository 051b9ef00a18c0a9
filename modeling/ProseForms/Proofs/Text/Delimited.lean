import Mathlib.Tactic.SplitIfs
import ProseForms.Text.Hex
import ProseForms.Text.Quoted

/-!
# Texts that show where they end

Several things written one after the other can be told apart again if each of them shows
where it ends.  A quoted text does, because a double quote inside of it never stands by
itself; a name does, when no letter or digit follows it.

* `SelfDelimiting` is the property, stated without a reader: what is written can be
  cancelled from the front, together with what it stands for.
* `SelfDelimiting.quoted` carries it from the characters to the quoted text.
* `Escapes` says what it takes of a way of escaping, and `escapes_quotedChar` is the case
  of `Text.quotedChar`.
* `append_inj_of_span` is the rule for names and for runs of blanks.
-/

namespace ProseForms.Text

/-- What is written can be told from what follows it. -/
def SelfDelimiting {α : Type} (write : α → List Char) : Prop :=
  ∀ (a b : α) (r s : List Char), write a ++ r = write b ++ s → a = b ∧ r = s

/-- What a reader finds again shows where it ends. -/
theorem SelfDelimiting.of_read {α : Type} {write : α → List Char}
    (read? : List Char → Option (α × List Char))
    (h : ∀ a rest, read? (write a ++ rest) = some (a, rest)) : SelfDelimiting write := by
  intro a b r s heq
  have hread := congrArg read? heq
  rw [h, h] at hread
  exact Prod.mk.inj (Option.some.inj hread)

/-! ## Names and blanks -/

/-- A run of characters of one kind ends where the first character of another kind
stands. -/
theorem append_inj_of_span {p : Char → Bool} {x y r s : List Char}
    (hx : ∀ c ∈ x, p c = true) (hy : ∀ c ∈ y, p c = true)
    (hr : ∀ c ∈ r.head?, p c = false) (hs : ∀ c ∈ s.head?, p c = false)
    (h : x ++ r = y ++ s) : x = y ∧ r = s := by
  have hstop : ∀ {t : List Char}, (∀ c ∈ t.head?, p c = false) → t.takeWhile p = [] := by
    intro t ht
    cases t with
    | nil => rfl
    | cons c t => exact List.takeWhile_cons_of_neg (Bool.eq_false_iff.1 (ht c rfl))
  have hspan := congrArg (List.takeWhile p) h
  rw [List.takeWhile_append_of_pos hx, List.takeWhile_append_of_pos hy, hstop hr, hstop hs,
    List.append_nil, List.append_nil] at hspan
  subst hspan
  exact ⟨rfl, List.append_cancel_left h⟩

/-- Letters and digits only. -/
def IsWord (s : String) : Prop :=
  ∀ c ∈ s.toList, c.isAlphanum = true

instance (s : String) : Decidable (IsWord s) :=
  decidable_of_iff (s.toList.all Char.isAlphanum = true) List.all_eq_true

theorem IsWord.newline_not_mem {s : String} (h : IsWord s) : '\n' ∉ s.toList :=
  fun hmem => absurd (h _ hmem) (by decide)

/-! ## Quoted texts -/

/-- The characters of a text between double quotes. -/
def quotedBy (escape : Char → List Char) (s : String) : List Char :=
  '"' :: s.toList.flatMap escape ++ ['"']

/-- A quoted text shows where it ends if its characters do and none of them is written with
a double quote in front. -/
theorem SelfDelimiting.quoted {escape : Char → List Char} (h : SelfDelimiting escape)
    (hfirst : ∀ c, ∃ first rest, escape c = first :: rest ∧ first ≠ '"') :
    SelfDelimiting (quotedBy escape) := by
  have hchars : ∀ (xs ys : List Char) {r s : List Char},
      xs.flatMap escape ++ '"' :: r = ys.flatMap escape ++ '"' :: s → xs = ys ∧ r = s := by
    intro xs
    induction xs with
    | nil =>
        intro ys r s heq
        cases ys with
        | nil => exact ⟨rfl, (List.cons.inj heq).2⟩
        | cons y ys =>
            obtain ⟨first, rest, hwritten, hne⟩ := hfirst y
            rw [List.flatMap_cons, hwritten] at heq
            exact absurd (List.cons.inj heq).1.symm hne
    | cons x xs ih =>
        intro ys r s heq
        cases ys with
        | nil =>
            obtain ⟨first, rest, hwritten, hne⟩ := hfirst x
            rw [List.flatMap_cons, hwritten] at heq
            exact absurd (List.cons.inj heq).1 hne
        | cons y ys =>
            rw [List.flatMap_cons, List.flatMap_cons, List.append_assoc,
              List.append_assoc] at heq
            obtain ⟨rfl, hrest⟩ := h _ _ _ _ heq
            obtain ⟨rfl, htail⟩ := ih ys hrest
            exact ⟨rfl, htail⟩
  intro a b r s heq
  simp only [quotedBy, List.cons_append, List.append_assoc, List.nil_append] at heq
  obtain ⟨hlist, htail⟩ := hchars a.toList b.toList (List.cons.inj heq).2
  exact ⟨String.toList_inj.1 hlist, htail⟩

/-! ## Hexadecimal digits -/

/-- A property of the digits below sixteen is one of the hexadecimal digits of every
number. -/
theorem forall_mem_toDigits {p : Char → Prop} (h : ∀ d < 16, p d.digitChar) (n : Nat) :
    ∀ c ∈ Nat.toDigits 16 n, p c := by
  induction n using Nat.strongRecOn with
  | ind n ih =>
      rw [Nat.toDigits_eq_if (by decide)]
      split
      · rename_i hlt
        intro c hc
        rw [List.mem_singleton.1 hc]
        exact h n hlt
      · rename_i hge
        intro c hc
        rcases List.mem_append.1 hc with hc | hc
        · exact ih (n / 16) (by omega) c hc
        · rw [List.mem_singleton.1 hc]
          exact h (n % 16) (Nat.mod_lt n (by decide))

/-- The number that hexadecimal digits spell. -/
def ofHexDigits (digits : List Char) : Nat :=
  digits.foldl (fun n c => 16 * n + (hexValue? c).getD 0) 0

theorem ofHexDigits_toDigits (n : Nat) : ofHexDigits (Nat.toDigits 16 n) = n := by
  have hdigit : ∀ d < 16, (hexValue? d.digitChar).getD 0 = d := by decide
  induction n using Nat.strongRecOn with
  | ind n ih =>
      rw [Nat.toDigits_eq_if (by decide)]
      split
      · rename_i hlt
        simp only [ofHexDigits, List.foldl_cons, List.foldl_nil, hdigit n hlt]
        omega
      · rename_i hge
        have hfirst := ih (n / 16) (by omega)
        unfold ofHexDigits at hfirst ⊢
        rw [List.foldl_append, hfirst]
        simp only [List.foldl_cons, List.foldl_nil, hdigit _ (Nat.mod_lt n (by decide))]
        omega

/-! ## Reading a quoted character -/

/-- The character that a quoted text starts with, and what follows it. -/
def readChar? : List Char → Option (Char × List Char)
  | '\\' :: '0' :: rest => some ('\x00', rest)
  | '\\' :: 't' :: rest => some ('\t', rest)
  | '\\' :: 'r' :: rest => some ('\r', rest)
  | '\\' :: 'n' :: rest => some ('\n', rest)
  | '\\' :: 'u' :: '\x7b' :: rest =>
      some (Char.ofNat (ofHexDigits (rest.takeWhile (· ≠ '\x7d'))),
        (rest.dropWhile (· ≠ '\x7d')).tail)
  | '\\' :: c :: rest => some (c, rest)
  | c :: rest => some (c, rest)
  | [] => none

theorem readChar?_of_ne {c : Char} (h : c ≠ '\\') (rest : List Char) :
    readChar? (c :: rest) = some (c, rest) := by
  unfold readChar?
  split <;> simp_all

theorem readChar?_number (c : Char) (rest : List Char) :
    readChar? (['\\', 'u', '\x7b'] ++ Nat.toDigits 16 c.toNat ++ ['\x7d'] ++ rest) =
      some (c, rest) := by
  have hdigits : ∀ d ∈ Nat.toDigits 16 c.toNat, decide (d ≠ '\x7d') = true :=
    forall_mem_toDigits (by decide) c.toNat
  have htake : (Nat.toDigits 16 c.toNat ++ '\x7d' :: rest).takeWhile (· ≠ '\x7d') =
      Nat.toDigits 16 c.toNat := by
    rw [List.takeWhile_append_of_pos hdigits, List.takeWhile_cons_of_neg (by decide),
      List.append_nil]
  have hdrop : (Nat.toDigits 16 c.toNat ++ '\x7d' :: rest).dropWhile (· ≠ '\x7d') =
      '\x7d' :: rest := by
    rw [List.dropWhile_append_of_pos hdigits, List.dropWhile_cons_of_neg (by decide)]
  simp only [List.cons_append, List.nil_append, List.append_assoc, readChar?, htake, hdrop,
    ofHexDigits_toDigits, Char.ofNat_toNat, List.tail_cons]

/-! ## Ways of escaping -/

/-- A way of escaping characters that `readChar?` undoes: a character stands for itself,
or is written with a backslash and one more character, or by its number. -/
def Escapes (escape : Char → List Char) : Prop :=
  ∀ c,
    (∃ d, escape c = ['\\', d] ∧ d ≠ '\n' ∧
      ∀ rest, readChar? ('\\' :: d :: rest) = some (c, rest)) ∨
    escape c = ['\\', 'u', '\x7b'] ++ Nat.toDigits 16 c.toNat ++ ['\x7d'] ∨
    escape c = [c] ∧ c ≠ '\\' ∧ c ≠ '"' ∧ c ≠ '\n'

namespace Escapes

variable {escape : Char → List Char}

theorem selfDelimiting (h : Escapes escape) : SelfDelimiting escape := by
  refine SelfDelimiting.of_read readChar? fun c rest => ?_
  rcases h c with ⟨d, hd, -, hread⟩ | hnumber | ⟨hself, hne, -, -⟩
  · rw [hd]
    exact hread rest
  · rw [hnumber]
    exact readChar?_number c rest
  · rw [hself]
    exact readChar?_of_ne hne rest

theorem first_ne_quote (h : Escapes escape) (c : Char) :
    ∃ first rest, escape c = first :: rest ∧ first ≠ '"' := by
  rcases h c with ⟨d, hd, -, -⟩ | hnumber | ⟨hself, -, hne, -⟩
  · exact ⟨'\\', [d], hd, by decide⟩
  · exact ⟨'\\', _, hnumber, by decide⟩
  · exact ⟨c, [], hself, hne⟩

theorem newline_not_mem (h : Escapes escape) (c : Char) : '\n' ∉ escape c := by
  have hdigits : '\n' ∉ Nat.toDigits 16 c.toNat := fun hmem =>
    forall_mem_toDigits (p := (· ≠ '\n')) (by decide) c.toNat _ hmem rfl
  rcases h c with ⟨d, hd, hne, -⟩ | hnumber | ⟨hself, -, -, hne⟩
  · simp [hd, hne.symm]
  · simp [hnumber, hdigits]
  · simp [hself, hne.symm]

theorem selfDelimiting_quotedBy (h : Escapes escape) : SelfDelimiting (quotedBy escape) :=
  h.selfDelimiting.quoted h.first_ne_quote

theorem newline_not_mem_quotedBy (h : Escapes escape) (s : String) :
    '\n' ∉ quotedBy escape s := by
  simp [quotedBy, h.newline_not_mem]

end Escapes

theorem escapes_quotedChar : Escapes quotedChar := by
  intro c
  unfold quotedChar
  split_ifs with hnull htab hreturn hnewline hquote hhidden
  · exact Or.inl ⟨'0', rfl, by decide, fun _ => hnull ▸ rfl⟩
  · exact Or.inl ⟨'t', rfl, by decide, fun _ => htab ▸ rfl⟩
  · exact Or.inl ⟨'r', rfl, by decide, fun _ => hreturn ▸ rfl⟩
  · exact Or.inl ⟨'n', rfl, by decide, fun _ => hnewline ▸ rfl⟩
  · refine Or.inl ⟨c, rfl, hnewline, fun _ => ?_⟩
    rcases hquote with rfl | rfl <;> rfl
  · exact Or.inr (Or.inl rfl)
  · rw [not_or] at hquote
    exact Or.inr (Or.inr ⟨rfl, hquote.1, hquote.2, hnewline⟩)

theorem toList_quoted (s : String) : (quoted s).toList = quotedBy quotedChar s :=
  String.toList_ofList

/-- A quoted text shows where it ends. -/
theorem selfDelimiting_quoted : SelfDelimiting fun s => (quoted s).toList := by
  rw [funext toList_quoted]
  exact escapes_quotedChar.selfDelimiting_quotedBy

theorem newline_not_mem_quoted (s : String) : '\n' ∉ (quoted s).toList := by
  rw [toList_quoted]
  exact escapes_quotedChar.newline_not_mem_quotedBy s

end ProseForms.Text
