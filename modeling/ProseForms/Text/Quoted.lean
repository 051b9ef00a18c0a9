import ProseForms.Text.Hidden

/-!
# Quoted text

A quoted text stands between double quotes.  Double quotes and backslashes get a
backslash in front, the four common controls have a letter of their own, and
every other hidden character is written by its number.
-/

namespace ProseForms.Text

/-- One character inside quotes.  An apostrophe stands for itself. -/
def quotedChar (c : Char) : List Char :=
  if c = '\x00' then ['\\', '0']
  else if c = '\t' then ['\\', 't']
  else if c = '\r' then ['\\', 'r']
  else if c = '\n' then ['\\', 'n']
  else if c = '\\' ∨ c = '"' then ['\\', c]
  else if isHidden c then
    ['\\', 'u', '\x7b'] ++ Nat.toDigits 16 c.toNat ++ ['\x7d']
  else [c]

/-- A text between double quotes. -/
def quoted (s : String) : String :=
  String.ofList (['"'] ++ s.toList.flatMap quotedChar ++ ['"'])

end ProseForms.Text
