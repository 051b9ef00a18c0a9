import ProseForms.Field.Basic
import ProseForms.Text.Quoted

/-!
# Edits

An edit is one change that a user makes to a form.
-/

namespace ProseForms

/-- One change that a user makes to a form. -/
inductive Edit where
  /-- A text box, radio group or drop down now holds this text. -/
  | text (kind : InputKind) (key value : String)
  /-- One option of a group of check boxes was ticked or cleared. -/
  | tick (key option : String) (checked : Bool)
deriving DecidableEq

namespace Edit

/-- The key of the answer that an edit changes. -/
def key : Edit → String
  | text _ key _ => key
  | tick key _ _ => key

/-- An edit as diagnostics show it. -/
def describe : Edit → String
  | text kind key value =>
      "TextChanged \x7b kind: " ++ kind.name ++ ", key: " ++ Text.quoted key ++
        ", value: " ++ Text.quoted value ++ " \x7d"
  | tick key option checked =>
      "CheckBoxChanged \x7b key: " ++ Text.quoted key ++ ", option: " ++ Text.quoted option ++
        ", checked: " ++ toString checked ++ " \x7d"

end Edit

end ProseForms
