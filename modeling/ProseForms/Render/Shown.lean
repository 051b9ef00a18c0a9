import ProseForms.Answers.Basic
import ProseForms.Field.Control

/-!
# What a control shows

A control shows the answer held under its key if that is of the right sort, and
its default otherwise.
-/

namespace ProseForms.Answers

/-- The text that a text box shows. -/
def shownText (answers : Answers) (key : String) (default : Option String) : String :=
  ((answers.text? key).or default).getD ""

/-- The radio buttons of a group, the default in front, and which of them are
checked. -/
def shownRadios (answers : Answers) (key default : String) (options : List String) :
    List (String × Bool) :=
  let chosen := (answers.text? key).getD default
  (default :: options).map fun choice => (choice, choice = chosen)

/-- The check boxes of a group and which of them are checked.  A set that is held
decides about every option; without one the flags of the field do, and an
option without a flag is not shown. -/
def shownBoxes (answers : Answers) (key : String) (flags : List Bool)
    (options : List String) : List (String × Bool) :=
  match answers.options? key with
  | some ticked => options.map fun option => (option, ticked.contains option)
  | none => flaggedOptions flags options

/-- The options of a drop down and which of them are selected.  Without a default
an empty option stands in front and no option is selected. -/
def shownOptions (answers : Answers) (key : String) (options : List String) :
    Option String → List (String × Bool)
  | none => ("" :: options).map fun option => (option, false)
  | some default =>
      let chosen := (answers.text? key).getD default
      options.map fun option => (option, option = chosen)

end ProseForms.Answers
