import Mathlib.Data.List.DropRight
import ProseForms.Text.Blank

/-!
# Trimming beside a character that stays

Trimming drops characters at the ends of a text up to the first one that is not blank.
So a character that is not blank cuts the work in two: what stands in front of it is
trimmed at its start, what stands behind it at its end, and neither depends on the other.

`trimChars_append_cons` says so for a text that holds such a character.  From it follows
that a part which is trimmed already at the end where the whole was trimmed can as well be
trimmed by itself: `trimChars_dropWhile` and `trimChars_trimEndChars`.
-/

namespace ProseForms.Text

variable {c : Char}

theorem trimEndChars_trimEndChars (cs : List Char) :
    trimEndChars (trimEndChars cs) = trimEndChars cs :=
  List.rdropWhile_idempotent isBlank cs

/-- What stands in front of a character that is not blank stays at the end. -/
theorem trimEndChars_append_cons (h : isBlank c = false) (a b : List Char) :
    trimEndChars (a ++ c :: b) = a ++ c :: trimEndChars b := by
  have hstop : ∀ xs : List Char,
      (xs ++ c :: a.reverse).dropWhile isBlank = xs.dropWhile isBlank ++ c :: a.reverse := by
    intro xs
    rw [List.dropWhile_append]
    split
    · rename_i hnil
      rw [List.isEmpty_iff.1 hnil, List.dropWhile_cons_of_neg (by simp [h]), List.nil_append]
    · rfl
  simp [trimEndChars, hstop]

/-- What stands behind a character that is not blank stays at the start. -/
theorem dropWhile_append_cons (h : isBlank c = false) (a b : List Char) :
    (a ++ c :: b).dropWhile isBlank = a.dropWhile isBlank ++ c :: b := by
  have hend := congrArg List.reverse (trimEndChars_append_cons h b.reverse a.reverse)
  simpa [trimEndChars] using hend

/-- A character that is not blank cuts trimming in two. -/
theorem trimChars_append_cons (h : isBlank c = false) (a b : List Char) :
    trimChars (a ++ c :: b) = a.dropWhile isBlank ++ c :: trimEndChars b := by
  rw [trimChars, dropWhile_append_cons h, trimEndChars_append_cons h]

theorem trimChars_dropWhile (cs : List Char) :
    trimChars (cs.dropWhile isBlank) = trimChars cs := by
  rw [trimChars, trimChars, List.dropWhile_idempotent]

theorem trimChars_trimEndChars (cs : List Char) :
    trimChars (trimEndChars cs) = trimChars cs := by
  by_cases hblank : ∀ c ∈ cs, isBlank c = true
  · have hnil : trimEndChars cs = [] := List.rdropWhile_eq_nil_iff.2 hblank
    rw [trimChars, trimChars, hnil, List.dropWhile_eq_nil_iff.2 hblank]
    rfl
  · push Not at hblank
    obtain ⟨c, hmem, hc⟩ := hblank
    obtain ⟨a, b, rfl, -⟩ := List.eq_append_cons_of_mem hmem
    have hstays : isBlank c = false := Bool.eq_false_iff.2 hc
    rw [trimEndChars_append_cons hstays, trimChars_append_cons hstays,
      trimChars_append_cons hstays, trimEndChars_trimEndChars]

end ProseForms.Text
