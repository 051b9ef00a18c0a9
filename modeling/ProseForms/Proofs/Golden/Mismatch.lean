import Mathlib.Data.String.Defs
import ProseForms.Golden.LineDiff

/-!
# What the report on two lists of lines says

The report is read in the line numbers that it prints, which start at one.  Two lists that
differ have a longest common beginning, and the line behind it is the one that the report
is about.

* `IsLongestCommonPrefix` and `IsWindow` say what the report should show without searching:
  which line comes first, and which lines stand around it.
* `firstMismatch?_eq_none_iff` and `exists_common_of_firstMismatch?` say what the search
  finds, and `isWindow_windowRows` that the rows around it are the window.
* `Row.text` and `mismatchHeading` write out the text about a mismatch, and `diff_eq_report`
  the whole report.
-/

namespace ProseForms.Golden

/-! ## The first line that differs -/

/-- A list that both lists start with, and that is no shorter than any other such list. -/
structure IsLongestCommonPrefix {α : Type} (common left right : List α) : Prop where
  isPrefix_left : common <+: left
  isPrefix_right : common <+: right
  length_le : ∀ other, other <+: left → other <+: right → other.length ≤ common.length

namespace IsLongestCommonPrefix

variable {α : Type} {common left right : List α}

theorem cons (h : IsLongestCommonPrefix common left right) (a : α) :
    IsLongestCommonPrefix (a :: common) (a :: left) (a :: right) where
  isPrefix_left := List.cons_prefix_cons.2 ⟨rfl, h.isPrefix_left⟩
  isPrefix_right := List.cons_prefix_cons.2 ⟨rfl, h.isPrefix_right⟩
  length_le other hleft hright := by
    cases other with
    | nil => exact Nat.zero_le _
    | cons b other =>
        have hleft' : other <+: left := (List.cons_prefix_cons.1 hleft).2
        have hright' : other <+: right := (List.cons_prefix_cons.1 hright).2
        exact Nat.succ_le_succ (h.length_le other hleft' hright')

/-- Lists that do not start alike have nothing in common. -/
theorem nil (h : left.head? ≠ right.head?) : IsLongestCommonPrefix [] left right where
  isPrefix_left := List.nil_prefix
  isPrefix_right := List.nil_prefix
  length_le other hleft hright := by
    cases other with
    | nil => exact Nat.le_refl 0
    | cons b other =>
        obtain ⟨rest, rfl⟩ := hleft
        obtain ⟨rest', rfl⟩ := hright
        exact absurd rfl h

end IsLongestCommonPrefix

theorem firstMismatch?_eq_none_iff (expected actual : List String) :
    firstMismatch? expected actual = none ↔ expected = actual := by
  fun_induction firstMismatch? expected actual with
  | case1 => simp
  | case2 as b bs ih => simpa using ih
  | case3 a as b bs hne => simp [hne]
  | case4 | case5 => simp

/-- The search finds the end of the longest common prefix, where at least one list goes on. -/
theorem exists_common_of_firstMismatch? {expected actual : List String} {i : Nat}
    (h : firstMismatch? expected actual = some i) :
    i < max expected.length actual.length ∧
      ∃ common, IsLongestCommonPrefix common expected actual ∧ common.length = i := by
  fun_induction firstMismatch? expected actual generalizing i with
  | case1 => cases h
  | case2 as b bs ih =>
      obtain ⟨j, hj, rfl⟩ := Option.map_eq_some_iff.1 h
      obtain ⟨hlt, common, hcommon, rfl⟩ := ih hj
      refine ⟨?_, b :: common, hcommon.cons b, rfl⟩
      rw [List.length_cons, List.length_cons]
      omega
  | case3 a as b bs hne =>
      cases h
      refine ⟨?_, [], .nil fun heq => hne (Option.some.inj heq), rfl⟩
      rw [List.length_cons, List.length_cons]
      omega
  | case4 b bs =>
      cases h
      exact ⟨by simp, [], .nil nofun, rfl⟩
  | case5 a as =>
      cases h
      exact ⟨by simp, [], .nil nofun, rfl⟩

/-! ## The rows around it -/

/-- What the report shows for a line number: the line of each list that has one, and
whether the number is marked. -/
structure Row where
  number : Nat
  marked : Bool
  expected : Option String
  actual : Option String

/-- A row as it is printed, in two lines. -/
def Row.text (row : Row) : String :=
  let mark := if row.marked then ">" else " "
  let number := (toString row.number).leftpad 4 ' '
  mark ++ " " ++ number ++ "  expected: " ++ row.expected.getD "<missing>" ++ "\n" ++
    (mark ++ " " ++ number ++ "    actual: " ++ row.actual.getD "<missing>" ++ "\n")

/-- The rows that a report about line `n` should show: two line numbers on each side, as far
as the longer list goes, with the lines of these numbers.  Line `n` is marked. -/
structure IsWindow (expected actual : List String) (n : Nat) (rows : List Row) : Prop where
  ascending : (rows.map Row.number).Pairwise (· < ·)
  mem_iff : ∀ k, k ∈ rows.map Row.number ↔
    max 1 (n - 2) ≤ k ∧ k ≤ min (n + 2) (max expected.length actual.length)
  expected_eq : ∀ row ∈ rows, row.expected = expected[row.number - 1]?
  actual_eq : ∀ row ∈ rows, row.actual = actual[row.number - 1]?
  marked_iff : ∀ row ∈ rows, row.marked = true ↔ row.number = n
  mem : n ∈ rows.map Row.number

/-- The row of an index, in a report about the mismatch at another one. -/
def rowAt (expected actual : List String) (mismatch index : Nat) : Row :=
  ⟨index + 1, decide (index = mismatch), expected[index]?, actual[index]?⟩

/-- The rows around a mismatch. -/
def windowRows (expected actual : List String) (mismatch : Nat) : List Row :=
  let start := mismatch - context
  let stop := min (mismatch + context + 1) (max expected.length actual.length)
  (List.range' start (stop - start)).map (rowAt expected actual mismatch)

/-- A line number stands at the right of its column. -/
theorem numberColumn_eq (n : Nat) : numberColumn n = (toString n).leftpad 4 ' ' := by
  show _ = String.ofList (List.leftpad 4 ' ' (toString n).toList)
  rw [Nat.toString_eq_ofList_toDigits, String.toList_ofList]
  rfl

section

variable (expected actual : List String) (mismatch : Nat)

theorem join_compared (index : Nat) :
    String.join ((compared expected actual mismatch index).map (· ++ "\n")) =
      (rowAt expected actual mismatch index).text := by
  simp only [compared, rowAt, Row.text, List.map_cons, List.map_nil, String.join_cons,
    String.join_nil, String.append_empty, decide_eq_true_eq, numberColumn_eq, missingLine]

theorem numbers_windowRows :
    (windowRows expected actual mismatch).map Row.number =
      List.range' (mismatch - 2 + 1)
        (min (mismatch + 3) (max expected.length actual.length) - (mismatch - 2)) := by
  have hnumber : Row.number ∘ rowAt expected actual mismatch = (1 + ·) :=
    funext fun index => Nat.add_comm index 1
  rw [windowRows, List.map_map, hnumber, List.map_add_range', Nat.add_comm 1]
  rfl

/-- The rows around a mismatch are the window of its line number. -/
theorem isWindow_windowRows (h : mismatch < max expected.length actual.length) :
    IsWindow expected actual (mismatch + 1) (windowRows expected actual mismatch) := by
  have hnumbers := numbers_windowRows expected actual mismatch
  have hmem : ∀ k, k ∈ (windowRows expected actual mismatch).map Row.number ↔
      max 1 (mismatch + 1 - 2) ≤ k ∧
        k ≤ min (mismatch + 1 + 2) (max expected.length actual.length) := by
    intro k
    rw [hnumbers, List.mem_range'_1]
    omega
  have hrows : ∀ row ∈ windowRows expected actual mismatch,
      ∃ index, row = rowAt expected actual mismatch index := by
    intro row hrow
    obtain ⟨index, -, hindex⟩ := List.mem_map.1 hrow
    exact ⟨index, hindex.symm⟩
  exact {
    ascending := by
      rw [hnumbers]
      exact List.pairwise_lt_range' 1
    mem_iff := hmem
    expected_eq := fun row hrow => by
      obtain ⟨index, rfl⟩ := hrows row hrow
      rfl
    actual_eq := fun row hrow => by
      obtain ⟨index, rfl⟩ := hrows row hrow
      rfl
    marked_iff := fun row hrow => by
      obtain ⟨index, rfl⟩ := hrows row hrow
      simp [rowAt]
    mem := by
      rw [hmem]
      omega }

end

/-! ## The text -/

/-- The heading of a report about line `n`, when the longer list has so many lines. -/
def mismatchHeading (n longest : Nat) : String :=
  let first := max 1 (n - 2)
  let last := min (n + 2) longest
  s!"first mismatch at line {n} (showing {first}..={last}):" ++ "\n"

theorem join_flatMap {α : Type} (f : α → List String) (items : List α) :
    String.join (items.flatMap f) = String.join (items.map fun item => String.join (f item)) := by
  induction items with
  | nil => rfl
  | cons item rest ih =>
      rw [List.flatMap_cons, String.join_append, ih, List.map_cons, String.join_cons]

theorem join_mismatchLines (expected actual : List String) (mismatch : Nat) :
    String.join ((mismatchLines expected actual mismatch).map (· ++ "\n")) =
      mismatchHeading (mismatch + 1) (max expected.length actual.length) ++
        String.join ((windowRows expected actual mismatch).map Row.text) := by
  have hfirst : mismatch - context + 1 = max 1 (mismatch + 1 - 2) := by
    unfold context
    omega
  have hlast : mismatch + context + 1 = mismatch + 1 + 2 := rfl
  rw [mismatchLines, List.map_cons, String.join_cons, List.map_flatMap, join_flatMap,
    windowRows, List.map_map]
  simp only [join_compared, hfirst, hlast]
  rfl

theorem join_lengthsLine (expected actual : List String) :
    String.join ([lengthsLine expected actual].map (· ++ "\n")) =
      "expected " ++ toString expected.length ++ " lines, actual " ++ toString actual.length ++
        " lines\n" := by
  rw [List.map_singleton, String.join_cons, String.join_nil, String.append_empty, lengthsLine,
    String.append_assoc]
  rfl

theorem isPrefix_mismatchHeading (n longest : Nat) (rest : String) :
    "first mismatch at line ".toList <+: (mismatchHeading n longest ++ rest).toList := by
  obtain ⟨more, hmore⟩ : ∃ more, mismatchHeading n longest = "first mismatch at line " ++ more := by
    unfold mismatchHeading
    simp only [String.append_assoc]
    exact ⟨_, rfl⟩
  rw [hmore, String.append_assoc, String.toList_append]
  exact List.prefix_append _ _

/-- The report on two lists says something about a mismatch exactly if they differ.  It is
about the line behind their longest common prefix, it shows this line and up to two line
numbers on each side, and it always ends with the lengths of the lists. -/
theorem diff_eq_report (expected actual : List String) :
    ("first mismatch at line ".toList <+: (diff expected actual).toList ↔ expected ≠ actual) ∧
      ∃ mismatchText,
        diff expected actual = mismatchText ++ ("expected " ++ toString expected.length ++
          " lines, actual " ++ toString actual.length ++ " lines\n") ∧
        ((expected = actual ∧ mismatchText = "") ∨
          (expected ≠ actual ∧ ∃ common rows, IsLongestCommonPrefix common expected actual ∧
            IsWindow expected actual (common.length + 1) rows ∧
            mismatchText = mismatchHeading (common.length + 1)
              (max expected.length actual.length) ++ String.join (rows.map Row.text))) := by
  rw [diff, diffLines, List.map_append, String.join_append, join_lengthsLine]
  cases hmismatch : firstMismatch? expected actual with
  | none =>
      have heq : expected = actual := (firstMismatch?_eq_none_iff expected actual).1 hmismatch
      refine ⟨iff_of_false ?_ (not_not_intro heq), "", rfl, Or.inl ⟨heq, rfl⟩⟩
      simp
  | some mismatch =>
      have hne : expected ≠ actual := by
        rw [Ne, ← firstMismatch?_eq_none_iff, hmismatch]
        exact Option.some_ne_none mismatch
      obtain ⟨hlt, common, hcommon, rfl⟩ := exists_common_of_firstMismatch? hmismatch
      have hwindow := isWindow_windowRows expected actual common.length hlt
      have htext := join_mismatchLines expected actual common.length
      refine ⟨iff_of_true ?_ hne, _, rfl, Or.inr ⟨hne, common, _, hcommon, hwindow, htext⟩⟩
      show _ <+: (String.join ((mismatchLines expected actual common.length).map _) ++ _).toList
      rw [htext, String.append_assoc]
      exact isPrefix_mismatchHeading _ _ _

/-- A line that only one list has is shown as missing in the other. -/
example :
    diff ["a", "b"] ["a"] =
      "first mismatch at line 2 (showing 1..=2):\n" ++
        "     1  expected: a\n" ++ "     1    actual: a\n" ++
        ">    2  expected: b\n" ++ ">    2    actual: <missing>\n" ++
        "expected 2 lines, actual 1 lines\n" := by
  decide +kernel

end ProseForms.Golden
