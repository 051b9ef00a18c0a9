/-!
# Form fields

A document asks for input through form fields.  What a field offers is written
out in the document, or is code that nobody has run; the latter cannot be
shown.
-/

namespace ProseForms

/-- What a text box is meant to hold. -/
inductive InputKind where
  | plainText
  | date
  | time
  | dateTime
deriving DecidableEq

namespace InputKind

/-- The type of the input control for this kind of text. -/
def inputType : InputKind → String
  | plainText => "text"
  | date => "date"
  | time => "time"
  | dateTime => "datetime-local"

/-- The name of the kind in encoded documents and in diagnostics. -/
def name : InputKind → String
  | plainText => "PlainText"
  | date => "Date"
  | time => "Time"
  | dateTime => "DateTime"

end InputKind

/-- Where the content of a field comes from. -/
inductive Source (α : Type) where
  /-- The content is written out in the document. -/
  | literal (value : α)
  /-- The content would come from running this code. -/
  | code (text : String)
deriving DecidableEq

/-- The content, if it is written out. -/
def Source.literal? {α : Type} : Source α → Option α
  | .literal value => some value
  | .code _ => none

/-- What a form field offers. -/
inductive FieldSpec where
  | textBox (kind : InputKind) (default : Option (Source String))
  | radioButtons (default : Source String) (options : Source (List String))
  | checkBoxes (flags : Source (List Bool)) (options : Source (List String))
  | dropDown (options : Source (List String)) (default : Option (Source String))
deriving DecidableEq

/-- The type of a field, as diagnostics call it. -/
def FieldSpec.typeName : FieldSpec → String
  | .textBox .. => "text box"
  | .radioButtons .. => "radio buttons"
  | .checkBoxes .. => "check boxes"
  | .dropDown .. => "drop down"

/-- A field of a form.  Its label is also the key of its answer. -/
structure FormField where
  label : String
  required : Bool
  spec : FieldSpec
deriving DecidableEq

end ProseForms
