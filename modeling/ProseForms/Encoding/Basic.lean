import ProseForms.Json.Reader
import ProseForms.Text.Decimal

/-!
# Encoded values

Documents, answers and edits are kept as JSON texts.  Alternatives are objects
with one entry, named for the alternative; an alternative without content is
its name.  A reader may have at most `Json.maxOpen` arrays and objects open at
once, and passes the number that it may still open, its room, to the readers of
the parts.
-/

namespace ProseForms

namespace Json

/-- How many arrays and objects may be open at once. -/
def maxOpen : Nat := 127

/-- Reads the parts of an array or object, for which there has to be room. -/
def opening {α : Type} (room : Nat) (read : Nat → Option α) : Option α :=
  match room with
  | 0 => none
  | room + 1 => read room

/-- The name of an alternative and its content. -/
def tagged? : Json → Option (String × Json)
  | .object [(some name, content)] => some (name, content)
  | _ => none

/-- The name of an alternative without content, which may also be written as an
object with a null. -/
def name? (room : Nat) (j : Json) : Option String :=
  match j with
  | .string name => name
  | .object [(some name, .null)] => opening room fun _ => some name
  | _ => none

/-- A list of values. -/
def list? {α : Type} (item : Nat → Json → Option α) (room : Nat) (j : Json) :
    Option (List α) :=
  opening room fun room => j.items?.bind fun items => items.mapM (item room)

/-- A text; it opens nothing. -/
def leafText? (_room : Nat) (j : Json) : Option String :=
  j.text?

/-- A truth value; it opens nothing. -/
def leafBool? (_room : Nat) (j : Json) : Option Bool :=
  j.bool?

/-- A number from 0 to 255, written with digits alone. -/
def octet? : Json → Option UInt8
  | .number spelling =>
      match Text.natural? spelling with
      | some n => if n < UInt8.size then some (UInt8.ofNat n) else none
      | none => none
  | _ => none

end Json

/-- How values of a type are kept as JSON. -/
class JsonForm (α : Type) where
  toJson : α → Json
  /-- Reads a value that may open a number of arrays and objects. -/
  ofJson? : Nat → Json → Option α

namespace JsonForm

/-- A value as text. -/
def encode {α : Type} [JsonForm α] (value : α) : String :=
  (toJson value).compact

/-- The value that a text encodes. -/
def decode? {α : Type} [JsonForm α] (text : String) : Option α :=
  (Json.parse? text).bind (ofJson? Json.maxOpen)

instance {α : Type} [JsonForm α] : JsonForm (List α) where
  toJson := Json.ofList toJson
  ofJson? := Json.list? ofJson?

end JsonForm

end ProseForms
