import ProseForms.Document.Fields
import ProseForms.Field.Control
import ProseForms.Answers.Basic

/-!
# Default answers

A form that is opened for the first time starts with the defaults that its
document writes out.  Among fields with the same label the last default counts.
-/

namespace ProseForms

/-- The options of a group of check boxes that start ticked. -/
def initiallyTicked (flags : List Bool) (options : List String) : OptionSet :=
  .ofList ((flaggedOptions flags options).filterMap fun (option, checked) =>
    if checked then some option else none)

/-- The answer that a field starts with, if its default is written out. -/
def FieldSpec.initialAnswer? : FieldSpec → Option Answer
  | .textBox kind (some (.literal text)) => some (.single kind text)
  | .radioButtons (.literal choice) _ => some (.single .plainText choice)
  | .checkBoxes (.literal flags) (.literal options) =>
      some (.multiple (initiallyTicked flags options))
  | .dropDown _ (some (.literal choice)) => some (.single .plainText choice)
  | .textBox .. | .radioButtons .. | .checkBoxes .. | .dropDown .. => none

/-- The answers with a field's default set; a field without one changes nothing. -/
def Answers.seed (answers : Answers) (field : FormField) : Answers :=
  match field.spec.initialAnswer? with
  | some answer => answers.insert field.label answer
  | none => answers

/-- The answers that a document starts with. -/
def Document.initialAnswers (doc : Document) : Answers :=
  doc.fields.foldl Answers.seed .empty

/-! ## Notices about defaults -/

/-- What is reported when the defaults of a document are collected. -/
inductive SeedNotice where
  | unpaired (label : String) (flags options : Nat)
  | seeded (label : String) (answer : Answer)
  | unseeded (typeName label : String)
deriving DecidableEq

/-- A notice as a log line. -/
def SeedNotice.line : SeedNotice → Log.Line
  | .unpaired label flags options =>
      ⟨.debug, "slamdown.form_state", Log.unpairedMessage label flags options⟩
  | .seeded label answer =>
      ⟨.trace, "slamdown.form_state",
        "seed " ++ Text.quoted label ++ " = " ++ answer.describe⟩
  | .unseeded typeName label =>
      ⟨.trace, "slamdown.form_state",
        "no literal default for " ++ typeName ++ " " ++ Text.quoted label⟩

/-- What is reported about check boxes whose flags and options do not pair up. -/
def FormField.unpairedNotices (field : FormField) : List SeedNotice :=
  match field.spec with
  | .checkBoxes (.literal flags) (.literal options) =>
      if flags.length = options.length then []
      else [.unpaired field.label flags.length options.length]
  | _ => []

/-- What is reported about the default of one field. -/
def FormField.seedNotices (field : FormField) : List SeedNotice :=
  field.unpairedNotices ++
    match field.spec.initialAnswer? with
    | some answer => [.seeded field.label answer]
    | none => [.unseeded field.spec.typeName field.label]

/-- What is reported about the defaults of a document, in document order. -/
def Document.seedNotices (doc : Document) : List SeedNotice :=
  doc.fields.flatMap FormField.seedNotices

end ProseForms
