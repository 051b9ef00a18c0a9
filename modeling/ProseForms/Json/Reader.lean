import ProseForms.Json.Scanner

/-!
# Reading JSON texts

The reader takes the tokens of a text one by one and keeps the arrays and
objects that are still open.  It accepts exactly one value, nested to any depth.
-/

namespace ProseForms.Json

/-- An array or object that is still open, with what was read of it, last item
first. -/
inductive Frame where
  | array (items : List Json)
  /-- An object, and the key whose value is being read. -/
  | object (entries : List (Option String × Json)) (key : Option String)

/-- What may come next. -/
inductive Expected where
  | value
  /-- The first item of an array, or its end. -/
  | firstItem
  /-- The first key of an object, or its end. -/
  | firstKey
  /-- A key, after these entries. -/
  | key (entries : List (Option String × Json))
  /-- The colon after a key. -/
  | colon (entries : List (Option String × Json)) (key : Option String)
  /-- A comma or an end, after this value. -/
  | more (value : Json)

/-- How far a text has been read. -/
structure Reading where
  /-- The arrays and objects that are still open, innermost first. -/
  frames : List Frame := []
  expected : Expected := .value

namespace Reading

/-- Reads the first token of a value. -/
def begin (frames : List Frame) : Token → Option Reading
  | .openArray => some ⟨frames, .firstItem⟩
  | .openObject => some ⟨frames, .firstKey⟩
  | .null => some ⟨frames, .more .null⟩
  | .bool value => some ⟨frames, .more (.bool value)⟩
  | .number spelling => some ⟨frames, .more (.number spelling)⟩
  | .string text => some ⟨frames, .more (.string text)⟩
  | .closeArray | .closeObject | .comma | .colon => none

/-- Reads one token. -/
def step (reading : Reading) (token : Token) : Option Reading :=
  match reading.expected, reading.frames, token with
  | .value, frames, token => begin frames token
  | .firstItem, frames, .closeArray => some ⟨frames, .more (.array [])⟩
  | .firstItem, frames, token => begin (.array [] :: frames) token
  | .firstKey, frames, .closeObject => some ⟨frames, .more (.object [])⟩
  | .firstKey, frames, .string key => some ⟨frames, .colon [] key⟩
  | .key entries, frames, .string key => some ⟨frames, .colon entries key⟩
  | .colon entries key, frames, .colon => some ⟨.object entries key :: frames, .value⟩
  | .more value, .array items :: frames, .comma =>
      some ⟨.array (value :: items) :: frames, .value⟩
  | .more value, .array items :: frames, .closeArray =>
      some ⟨frames, .more (.array (value :: items).reverse)⟩
  | .more value, .object entries key :: frames, .comma =>
      some ⟨frames, .key ((key, value) :: entries)⟩
  | .more value, .object entries key :: frames, .closeObject =>
      some ⟨frames, .more (.object ((key, value) :: entries).reverse)⟩
  | _, _, _ => none

/-- The value of a text that ends here. -/
def finish (reading : Reading) : Option Json :=
  match reading.expected, reading.frames with
  | .more value, [] => some value
  | _, _ => none

end Reading

/-- The value that some tokens are. -/
def ofTokens? (tokens : List Token) : Option Json :=
  (tokens.foldlM Reading.step {}).bind Reading.finish

/-- The value that a text is. -/
def parse? (text : String) : Option Json :=
  (scan? text.toList).bind ofTokens?

end ProseForms.Json
