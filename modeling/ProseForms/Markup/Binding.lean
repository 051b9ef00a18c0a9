import ProseForms.Answers.Edit

/-!
# Bindings

A binding stands on a rendered control and says which edit the control raises
when the user acts on it.
-/

namespace ProseForms

/-- What a control does with the user's actions. -/
inductive Binding where
  /-- A text box: every input carries the whole new text. -/
  | input (kind : InputKind) (key : String)
  /-- A drop down: a change carries the chosen value. -/
  | change (key : String)
  /-- One radio button: becoming checked chooses its value. -/
  | choose (key value : String)
  /-- One check box. -/
  | toggle (key option : String)
deriving DecidableEq

/-- An action of the user on a control. -/
inductive Notification where
  | input (text : String)
  | change (value : String)
  | checked (checked : Bool)
deriving DecidableEq

namespace Binding

/-- The key of the answer that a control edits. -/
def key : Binding → String
  | input _ key => key
  | change key => key
  | choose key _ => key
  | toggle key _ => key

/-- The edit that an action raises.  A control ignores the actions of other kinds
of control, and a radio button ignores that it was unchecked. -/
def resolve? : Binding → Notification → Option Edit
  | input kind key, .input text => some (.text kind key text)
  | change key, .change value => some (.text .plainText key value)
  | choose key value, .checked true => some (.text .plainText key value)
  | toggle key option, .checked checked => some (.tick key option checked)
  | _, _ => none

/-- An edit that a control raises is about the control's own key. -/
theorem key_of_resolve? {binding : Binding} {notification : Notification} {edit : Edit}
    (h : binding.resolve? notification = some edit) : edit.key = binding.key := by
  cases binding <;> rcases notification with _ | _ | (_ | _) <;>
    simp only [resolve?, reduceCtorEq, Option.some.injEq] at h <;> subst h <;> rfl

/-- A binding as markup shows it. -/
def display : Binding → String
  | input kind key => "input(" ++ Text.quoted key ++ ", " ++ kind.name ++ ")"
  | change key => "change(" ++ Text.quoted key ++ ")"
  | choose key value => "choose(" ++ Text.quoted key ++ ", " ++ Text.quoted value ++ ")"
  | toggle key option => "toggle(" ++ Text.quoted key ++ ", " ++ Text.quoted option ++ ")"

/-- A binding as diagnostics show the listener that carries it. -/
def describe (binding : Binding) : String :=
  let fields := match binding with
    | input kind key => "Input \x7b kind: " ++ kind.name ++ ", key: " ++ Text.quoted key
    | change key => "Change \x7b key: " ++ Text.quoted key
    | choose key value =>
        "Choose \x7b key: " ++ Text.quoted key ++ ", value: " ++ Text.quoted value
    | toggle key option =>
        "Toggle \x7b key: " ++ Text.quoted key ++ ", option: " ++ Text.quoted option
  "Listener(" ++ fields ++ " \x7d)"

end Binding

end ProseForms
