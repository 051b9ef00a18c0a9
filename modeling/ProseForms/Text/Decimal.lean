/-!
# Decimal numbers

Reading numbers from ASCII digits.
-/

namespace ProseForms.Text

/-- The number that one or more ASCII digits spell. -/
def natural? (digits : List Char) : Option Nat :=
  if digits ≠ [] ∧ digits.all Char.isDigit then
    some (Nat.ofDigitChars 10 digits 0)
  else none

/-- A number below `2 ^ 64`: an optional plus sign, then digits. -/
def word64? (s : String) : Option UInt64 :=
  let digits := match s.toList with
    | '+' :: rest => rest
    | cs => cs
  match natural? digits with
  | some n => if n < UInt64.size then some (UInt64.ofNat n) else none
  | none => none

/-- The number in a setting, or a default when the setting is absent or does not
spell a number below `2 ^ 64`. -/
def word64Or (setting : Option String) (default : UInt64) : UInt64 :=
  (setting.bind word64?).getD default

end ProseForms.Text
