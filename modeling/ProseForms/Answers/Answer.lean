import Std.Data.ExtTreeSet
import ProseForms.Field.Basic
import ProseForms.Text.Quoted

/-!
# Answers

An answer is what a form holds for one field.
-/

namespace ProseForms

/-- A set of options, in the order of their code points. -/
abbrev OptionSet := Std.ExtTreeSet String

/-- What is held for one field. -/
inductive Answer where
  /-- The text of a text box, or the choice of a radio group or drop down.  The
  kind is that of the control that produced it. -/
  | single (kind : InputKind) (text : String)
  /-- The ticked options of a group of check boxes. -/
  | multiple (options : OptionSet)
deriving DecidableEq

namespace Answer

/-- The text of a single answer. -/
def text? : Answer → Option String
  | single _ text => some text
  | multiple _ => none

/-- The ticked options of a multiple answer. -/
def options? : Answer → Option OptionSet
  | single .. => none
  | multiple options => some options

/-- An answer as diagnostics show it. -/
def describe : Answer → String
  | single kind text => "SingleValue(" ++ kind.name ++ ", " ++ Text.quoted text ++ ")"
  | multiple options =>
      "MultipleValues(\x7b" ++ ", ".intercalate (options.toList.map Text.quoted) ++ "\x7d)"

end Answer

end ProseForms
