import ProseForms.Answers.Edit
import ProseForms.Field.Basic
import ProseForms.Sample.Lcg

/-!
# Sample fields and edits

The labels, the words and the kinds come from short lists, so that samples
repeat keys and options.
-/

namespace ProseForms.Sample

/-- The labels of sample fields. -/
def labels : List String :=
  ["Name", "Colors", "Size", "When", "Pick"]

/-- The words of samples. -/
def words : List String :=
  ["alpha", "beta", "Red", "Green", "", "A b"]

/-- The kinds of sample text boxes. -/
def kinds : List InputKind :=
  [.plainText, .date, .time, .dateTime]

/-- Draws a label. -/
def label : Gen String := do
  return (← Lcg.pick labels).getD "Name"

/-- Draws a word. -/
def word : Gen String := do
  return (← Lcg.pick words).getD ""

/-- Draws a kind. -/
def kind : Gen InputKind := do
  return (← Lcg.pick kinds).getD .plainText

/-- Draws a default: none, code, or a word. -/
def optionalDefault : Gen (Option (Source String)) := do
  let choice ← Lcg.below 4
  if choice = 0 then return none
  else if choice = 1 then return some (.code "!\x60x\x60")
  else return some (.literal (← word))

/-- Draws a choice: code, or a word. -/
def default : Gen (Source String) := do
  let choice ← Lcg.below 5
  if choice = 0 then return .code "!\x60x\x60"
  else return .literal (← word)

/-- Draws options: code, or at most three words. -/
def options : Gen (Source (List String)) := do
  let choice ← Lcg.below 5
  if choice = 0 then return .code "!\x60list\x60"
  else
    let count ← Lcg.below 4
    return .literal (← Lcg.times count.toNat word)

/-- Draws flags: code, or at most three truth values. -/
def flags : Gen (Source (List Bool)) := do
  let choice ← Lcg.below 5
  if choice = 0 then return .code "!\x60flags\x60"
  else
    let count ← Lcg.below 4
    return .literal (← Lcg.times count.toNat Lcg.flip)

/-- Draws a field specification. -/
def fieldSpec : Gen FieldSpec := do
  let choice ← Lcg.below 4
  if choice = 0 then
    let kind ← kind
    return .textBox kind (← optionalDefault)
  else if choice = 1 then
    let default ← default
    return .radioButtons default (← options)
  else if choice = 2 then
    let flags ← flags
    return .checkBoxes flags (← options)
  else
    let options ← options
    return .dropDown options (← optionalDefault)

/-- Draws a form field. -/
def field : Gen FormField := do
  let label ← label
  let spec ← fieldSpec
  let required ← Lcg.flip
  return ⟨label, required, spec⟩

/-- Draws an edit. -/
def edit : Gen Edit := do
  let key ← label
  if ← Lcg.flip then
    let kind ← kind
    return .text kind key (← word)
  else
    let checked ← Lcg.flip
    return .tick key (← word) checked

/-- Draws a number of edits. -/
def edits (count : Nat) : Gen (List Edit) :=
  Lcg.times count edit

end ProseForms.Sample
