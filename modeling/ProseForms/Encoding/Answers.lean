import ProseForms.Answers.Basic
import ProseForms.Encoding.Field

/-!
# Encoded answers and edits

The answers of a form are an object with their keys in ascending order.  When a
text repeats a key, the last answer counts.
-/

namespace ProseForms

instance : JsonForm Answer where
  toJson
    | .single kind text => .tagged "SingleValue" (.array [JsonForm.toJson kind, .text text])
    | .multiple options => .tagged "MultipleValues" (Json.ofList .text options.toList)
  ofJson? room j :=
    Json.opening room fun room =>
      match j.tagged? with
      | some ("SingleValue", .array [kind, text]) =>
          Json.opening room fun room => do
            let kind ← JsonForm.ofJson? room kind
            let text ← text.text?
            return .single kind text
      | some ("MultipleValues", content) =>
          (Json.list? Json.leafText? room content).map fun options => .multiple (.ofList options)
      | _ => none

/-- Reads one entry of some answers. -/
def Answers.entryOfJson? (room : Nat) : Option String × Json → Option (String × Answer)
  | (some key, j) => (JsonForm.ofJson? room j).map fun answer => (key, answer)
  | (none, _) => none

instance : JsonForm Answers where
  toJson answers :=
    .record (answers.toList.map fun (key, answer) => (key, JsonForm.toJson answer))
  ofJson? room j :=
    Json.opening room fun room =>
      match j with
      | .object entries => (entries.mapM (Answers.entryOfJson? room)).map Answers.ofList
      | _ => none

/-- Reads the parts of an edit of a given type. -/
def Edit.ofParts? (room : Nat) (type : String) (content : Json) : Option Edit :=
  match type with
  | "TextChanged" =>
      match content.fields? ["kind", "key", "value"] with
      | some [some kind, some key, some value] => do
          let kind ← JsonForm.ofJson? room kind
          let key ← key.text?
          let value ← value.text?
          return .text kind key value
      | _ => none
  | "CheckBoxChanged" =>
      match content.fields? ["key", "option", "checked"] with
      | some [some key, some option, some checked] => do
          let key ← key.text?
          let option ← option.text?
          let checked ← checked.bool?
          return .tick key option checked
      | _ => none
  | _ => none

instance : JsonForm Edit where
  toJson
    | .text kind key value => .tagged "TextChanged" (.record [
        ("kind", JsonForm.toJson kind), ("key", .text key), ("value", .text value)])
    | .tick key option checked => .tagged "CheckBoxChanged" (.record [
        ("key", .text key), ("option", .text option), ("checked", .bool checked)])
  ofJson? room j :=
    Json.opening room fun room =>
      j.tagged?.bind fun (type, content) =>
        Json.opening room fun room => Edit.ofParts? room type content

end ProseForms
