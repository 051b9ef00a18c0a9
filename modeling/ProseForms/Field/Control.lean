import ProseForms.Field.Basic

/-!
# Controls

A field can be shown as a control when all the lists that the control needs are
written out.  A text default that is code counts as no default.
-/

namespace ProseForms

/-- A field specification with every list that it needs written out. -/
inductive Control where
  | textBox (kind : InputKind) (default : Option String)
  | radioButtons (default : String) (options : List String)
  | checkBoxes (flags : List Bool) (options : List String)
  | dropDown (options : List String) (default : Option String)
deriving DecidableEq

/-- The control that shows a field, or nothing when a list or a radio group's
default is code. -/
def FieldSpec.control? : FieldSpec → Option Control
  | .textBox kind default => some (.textBox kind (default.bind Source.literal?))
  | .radioButtons (.literal default) (.literal options) =>
      some (.radioButtons default options)
  | .checkBoxes (.literal flags) (.literal options) => some (.checkBoxes flags options)
  | .dropDown (.literal options) default =>
      some (.dropDown options (default.bind Source.literal?))
  | .radioButtons .. | .checkBoxes .. | .dropDown .. => none

/-- The options of a group of check boxes next to the flags that say which of
them start ticked, as far as the shorter of the two lists goes. -/
def flaggedOptions (flags : List Bool) (options : List String) : List (String × Bool) :=
  options.zip flags

end ProseForms
