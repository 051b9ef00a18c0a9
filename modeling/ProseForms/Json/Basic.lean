/-!
# JSON values

A string is `none` when it spells an unpaired surrogate, because then it spells
no text.  An object keeps its entries in the order and number in which they
stand, so that a reader can decide what a repeated key means.  A number keeps
its spelling.
-/

namespace ProseForms

/-- A JSON value. -/
inductive Json where
  | null
  | bool (value : Bool)
  | number (spelling : List Char)
  | string (text : Option String)
  | array (items : List Json)
  | object (entries : List (Option String × Json))

namespace Json

/-! ## Making values -/

/-- A text. -/
def text (s : String) : Json :=
  .string (some s)

/-- A number. -/
def nat (n : Nat) : Json :=
  .number (Nat.toDigits 10 n)

/-- A list of values. -/
def ofList {α : Type} (item : α → Json) (items : List α) : Json :=
  .array (items.map item)

/-- A value that may be absent. -/
def ofOption {α : Type} (value : α → Json) : Option α → Json
  | some a => value a
  | none => .null

/-- An object with given keys. -/
def record (entries : List (String × Json)) : Json :=
  .object (entries.map fun (key, value) => (some key, value))

/-- A named alternative with its content. -/
def tagged (name : String) (content : Json) : Json :=
  .object [(some name, content)]

/-! ## Looking into values -/

/-- The text of a string. -/
def text? : Json → Option String
  | .string text => text
  | _ => none

/-- A truth value. -/
def bool? : Json → Option Bool
  | .bool value => some value
  | _ => none

/-- The items of an array. -/
def items? : Json → Option (List Json)
  | .array items => some items
  | _ => none

/-- The last value under a key of an object. -/
def get? (key : String) : Json → Option Json
  | .object entries => (entries.findRev? (·.1 = some key)).map Prod.snd
  | _ => none

/-- The values of the known fields of a record, in the order of `names`.  An
array has one item for every field.  An object may leave fields out and may
hold other fields, but it repeats no known one, and all its keys are texts. -/
def fields? (names : List String) : Json → Option (List (Option Json))
  | .array items => if items.length = names.length then some (items.map some) else none
  | .object entries =>
      if entries.all (·.1.isSome) then
        names.mapM fun name =>
          match entries.filter (·.1 = some name) with
          | [] => some none
          | [(_, value)] => some (some value)
          | _ => none
      else none
  | _ => none

end Json

end ProseForms
