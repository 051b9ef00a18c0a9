import Std.Data.ExtTreeMap
import ProseForms.Answers.Answer
import ProseForms.Answers.Edit
import ProseForms.Log

/-!
# The answers of a form

The answers are held by key.  Only edits change them after the form has been
opened, and an edit never fails.  `Answers.get?_apply` says what one edit does
to every key.
-/

namespace ProseForms

/-- The answers of a form by key, in the order of the keys' code points. -/
structure Answers where
  byKey : Std.ExtTreeMap String Answer := ∅
deriving DecidableEq

namespace Answers

/-- No answers. -/
def empty : Answers := {}

/-- The answer held under a key. -/
def get? (answers : Answers) (key : String) : Option Answer :=
  answers.byKey[key]?

/-- The answers with one of them set. -/
def insert (answers : Answers) (key : String) (answer : Answer) : Answers :=
  ⟨answers.byKey.insert key answer⟩

/-- Answers from pairs; the last one of a key counts. -/
def ofList (entries : List (String × Answer)) : Answers :=
  entries.foldl (fun answers (key, answer) => answers.insert key answer) empty

/-- The keys and their answers, keys ascending. -/
def toList (answers : Answers) : List (String × Answer) :=
  answers.byKey.toList

/-- The number of keys. -/
def size (answers : Answers) : Nat :=
  answers.byKey.size

/-- Whether there is an answer under a key. -/
def contains (answers : Answers) (key : String) : Bool :=
  (answers.get? key).isSome

/-- The text held under a key, if that is a single answer. -/
def text? (answers : Answers) (key : String) : Option String :=
  (answers.get? key).bind Answer.text?

/-- The ticked options held under a key, if that is a multiple answer. -/
def options? (answers : Answers) (key : String) : Option OptionSet :=
  (answers.get? key).bind Answer.options?

/-- Two collections of answers are equal when they agree on every key. -/
@[ext] theorem ext_get? {a b : Answers} (h : ∀ key, a.get? key = b.get? key) : a = b := by
  cases a
  cases b
  exact congrArg mk (Std.ExtTreeMap.ext_getElem? h)

@[simp] theorem get?_empty (key : String) : empty.get? key = none := by
  simp [empty, get?]

theorem get?_insert (answers : Answers) (k key : String) (answer : Answer) :
    (answers.insert k answer).get? key = if k = key then some answer else answers.get? key := by
  simp [insert, get?, Std.ExtTreeMap.getElem?_insert]

/-! ## Edits -/

/-- The options that ticking or clearing one of them leaves.  A group that holds
no options yet starts with none ticked. -/
def ticked (answers : Answers) (key option : String) (checked : Bool) : OptionSet :=
  let held := (answers.options? key).getD ∅
  if checked then held.insert option else held.erase option

/-- The answers after an edit.  A text replaces what was held.  A tick changes the
set of ticked options, which replaces a single answer, and leaves a set under
the key even if nothing is ticked. -/
def apply (answers : Answers) : Edit → Answers
  | .text kind key value => answers.insert key (.single kind value)
  | .tick key option checked =>
      answers.insert key (.multiple (answers.ticked key option checked))

/-- The answers after some edits, in order. -/
def applyAll (answers : Answers) (edits : List Edit) : Answers :=
  edits.foldl apply answers

/-- An edit touches only its own key. -/
theorem get?_apply_of_ne {answers : Answers} {edit : Edit} {key : String}
    (h : edit.key ≠ key) : (answers.apply edit).get? key = answers.get? key := by
  cases edit <;> simp_all [apply, get?_insert, Edit.key]

/-! ## Notices about edits -/

/-- What is reported when an edit is applied. -/
inductive Notice where
  | applied (edit : Edit)
  | replacedSingle (key text : String)
deriving DecidableEq

/-- A notice as a log line. -/
def Notice.line : Notice → Log.Line
  | .applied edit => ⟨.trace, "slamdown.form_state", "apply " ++ edit.describe⟩
  | .replacedSingle key text =>
      ⟨.debug, "slamdown.form_state",
        "check box change on " ++ Text.quoted key ++ " replaces single value " ++
          Text.quoted text⟩

/-- What is reported about one edit: the edit itself, and the text that a tick
throws away. -/
def applyNotices (answers : Answers) (edit : Edit) : List Notice :=
  match edit with
  | .text .. => [.applied edit]
  | .tick key .. =>
      match answers.text? key with
      | some text => [.applied edit, .replacedSingle key text]
      | none => [.applied edit]

/-- What is reported about some edits, in order. -/
def applyAllNotices (answers : Answers) : List Edit → List Notice
  | [] => []
  | edit :: edits =>
      answers.applyNotices edit ++ (answers.apply edit).applyAllNotices edits

end Answers

end ProseForms
