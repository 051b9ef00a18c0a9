/-!
# Comparing lines

The report about two lists of lines shows the surroundings of the first line
that differs, and ends with the lengths of both lists.
-/

namespace ProseForms.Golden

/-- The index of the first line that differs.  A line that is missing on one side
differs from any line. -/
def firstMismatch? : List String → List String → Option Nat
  | [], [] => none
  | a :: as, b :: bs => if a = b then (firstMismatch? as bs).map (· + 1) else some 0
  | [], _ :: _ | _ :: _, [] => some 0

/-- How many lines are shown on each side of a mismatch. -/
def context : Nat := 2

/-- A line number in a column of four places. -/
def numberColumn (n : Nat) : String :=
  let digits := Nat.toDigits 10 n
  String.ofList (List.replicate (4 - digits.length) ' ' ++ digits)

/-- What stands for a line that a list does not have. -/
def missingLine : String := "<missing>"

/-- The two lines of the report about one line number. -/
def compared (expected actual : List String) (mismatch index : Nat) : List String :=
  let mark := if index = mismatch then ">" else " "
  let number := numberColumn (index + 1)
  [mark ++ " " ++ number ++ "  expected: " ++ expected[index]?.getD missingLine,
    mark ++ " " ++ number ++ "    actual: " ++ actual[index]?.getD missingLine]

/-- The part of the report about a mismatch. -/
def mismatchLines (expected actual : List String) (mismatch : Nat) : List String :=
  let start := mismatch - context
  let stop := min (mismatch + context + 1) (max expected.length actual.length)
  let number := mismatch + 1
  let first := start + 1
  s!"first mismatch at line {number} (showing {first}..={stop}):" ::
    (List.range' start (stop - start)).flatMap (compared expected actual mismatch)

/-- The last line of the report. -/
def lengthsLine (expected actual : List String) : String :=
  let left := expected.length
  let right := actual.length
  s!"expected {left} lines, actual {right} lines"

/-- The lines of the report. -/
def diffLines (expected actual : List String) : List String :=
  (match firstMismatch? expected actual with
    | some mismatch => mismatchLines expected actual mismatch
    | none => []) ++ [lengthsLine expected actual]

/-- The report as a text; every line of it ends with a line feed. -/
def diff (expected actual : List String) : String :=
  String.join ((diffLines expected actual).map (· ++ "\n"))

end ProseForms.Golden
