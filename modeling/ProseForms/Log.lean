import ProseForms.Text.Quoted

/-!
# Log lines

What happens to a form is reported as notices, each of which has a level, the
name of the part that reports it, and a message.
-/

namespace ProseForms

/-- How much a log line matters. -/
inductive Log.Level where
  | trace
  | debug
deriving DecidableEq

/-- The name of a level. -/
def Log.Level.name : Log.Level → String
  | .trace => "trace"
  | .debug => "debug"

/-- One line of a log. -/
structure Log.Line where
  level : Log.Level
  target : String
  message : String
deriving DecidableEq

/-- The message about a group of check boxes whose flags and options do not pair
up. -/
def Log.unpairedMessage (label : String) (flags options : Nat) : String :=
  "check boxes " ++ Text.quoted label ++ s!": {flags} flags for {options} options, " ++
    "pairing the shorter list"

end ProseForms
