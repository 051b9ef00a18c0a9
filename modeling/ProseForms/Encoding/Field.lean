import ProseForms.Encoding.Basic
import ProseForms.Field.Basic

/-!
# Encoded form fields
-/

namespace ProseForms

namespace InputKind

/-- The kind with a given name. -/
def ofName? : String → Option InputKind
  | "PlainText" => some plainText
  | "Date" => some date
  | "Time" => some time
  | "DateTime" => some dateTime
  | _ => none

instance : JsonForm InputKind where
  toJson kind := .text kind.name
  ofJson? room j := (j.name? room).bind ofName?

end InputKind

namespace Source

variable {α : Type}

/-- An encoded source, given how its literal is encoded. -/
def toJson (literal : α → Json) : Source α → Json
  | .literal value => .tagged "Literal" (literal value)
  | .code text => .tagged "Unevaluated" (.text text)

/-- Reads a source, given how its literal is read. -/
def ofJson? (literal? : Nat → Json → Option α) (room : Nat) (j : Json) : Option (Source α) :=
  Json.opening room fun room =>
    match j.tagged? with
    | some ("Literal", content) => (literal? room content).map .literal
    | some ("Unevaluated", content) => content.text?.map .code
    | _ => none

/-- Reads a default, which may be null. -/
def ofNullable? (room : Nat) : Json → Option (Option (Source String))
  | .null => some none
  | j => (ofJson? Json.leafText? room j).map some

end Source

namespace FieldSpec

/-- An encoded field specification. -/
def toJson : FieldSpec → Json
  | .textBox kind default => .tagged "TextBox" (.record [
      ("kind", JsonForm.toJson kind),
      ("default", Json.ofOption (Source.toJson .text) default)])
  | .radioButtons default options => .tagged "RadioButtons" (.record [
      ("default", default.toJson .text),
      ("options", options.toJson (Json.ofList .text))])
  | .checkBoxes flags options => .tagged "CheckBoxes" (.record [
      ("checked", flags.toJson (Json.ofList .bool)),
      ("options", options.toJson (Json.ofList .text))])
  | .dropDown options default => .tagged "DropDown" (.record [
      ("options", options.toJson (Json.ofList .text)),
      ("default", Json.ofOption (Source.toJson .text) default)])

/-- Reads a list of options. -/
def options? (room : Nat) (j : Json) : Option (Source (List String)) :=
  Source.ofJson? (Json.list? Json.leafText?) room j

/-- Reads the parts of a field specification of a given type. -/
def ofParts? (room : Nat) (type : String) (content : Json) : Option FieldSpec :=
  match type with
  | "TextBox" =>
      match content.fields? ["kind", "default"] with
      | some [some kind, default] => do
          let kind ← JsonForm.ofJson? room kind
          let default ← Source.ofNullable? room (default.getD .null)
          return .textBox kind default
      | _ => none
  | "RadioButtons" =>
      match content.fields? ["default", "options"] with
      | some [some default, some options] => do
          let default ← Source.ofJson? Json.leafText? room default
          let options ← options? room options
          return .radioButtons default options
      | _ => none
  | "CheckBoxes" =>
      match content.fields? ["checked", "options"] with
      | some [some flags, some options] => do
          let flags ← Source.ofJson? (Json.list? Json.leafBool?) room flags
          let options ← options? room options
          return .checkBoxes flags options
      | _ => none
  | "DropDown" =>
      match content.fields? ["options", "default"] with
      | some [some options, default] => do
          let options ← options? room options
          let default ← Source.ofNullable? room (default.getD .null)
          return .dropDown options default
      | _ => none
  | _ => none

instance : JsonForm FieldSpec where
  toJson := toJson
  ofJson? room j :=
    Json.opening room fun room =>
      j.tagged?.bind fun (type, content) =>
        Json.opening room fun room => ofParts? room type content

end FieldSpec

instance : JsonForm FormField where
  toJson field := .record [
    ("label", .text field.label), ("required", .bool field.required),
    ("spec", JsonForm.toJson field.spec)]
  ofJson? room j :=
    Json.opening room fun room =>
      match j.fields? ["label", "required", "spec"] with
      | some [some label, some required, some spec] => do
          let label ← label.text?
          let required ← required.bool?
          let spec ← JsonForm.ofJson? room spec
          return ⟨label, required, spec⟩
      | _ => none

end ProseForms
