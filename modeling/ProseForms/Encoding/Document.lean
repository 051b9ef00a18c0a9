import ProseForms.Document.Basic
import ProseForms.Encoding.Field

/-!
# Encoded documents

A document is the list of its blocks.  The room for open arrays and objects also
bounds how deep blocks and inlines may nest.
-/

namespace ProseForms

instance : JsonForm ListKind where
  toJson
    | .bullet => .text "Bullet"
    | .ordered => .text "Ordered"
  ofJson? room j :=
    match j.name? room with
    | some "Bullet" => some .bullet
    | some "Ordered" => some .ordered
    | _ => none

instance : JsonForm LinkTarget where
  toJson
    | .inline url => .tagged "Inline" (.text url)
    | .reference label url => .tagged "Reference" (.array [.text label, Json.ofOption .text url])
  ofJson? room j :=
    Json.opening room fun room =>
      match j.tagged? with
      | some ("Inline", content) => content.text?.map .inline
      | some ("Reference", .array [label, url]) =>
          Json.opening room fun _ => do
            let label ← label.text?
            match url with
            | .null => return .reference label none
            | url => return .reference label (some (← url.text?))
      | _ => none

/-! ## Inlines -/

namespace Inline

/-- The inline without content that has a given name. -/
def ofName? : String → Option Inline
  | "Space" => some .space
  | "SoftBreak" => some .softBreak
  | "LineBreak" => some .lineBreak
  | _ => none

mutual

/-- An encoded inline. -/
def toJson : Inline → Json
  | .str text => .tagged "Str" (.text text)
  | .entity text => .tagged "Entity" (.text text)
  | .space => .text "Space"
  | .softBreak => .text "SoftBreak"
  | .lineBreak => .text "LineBreak"
  | .emph body => .tagged "Emph" (.array (toJsons body))
  | .strong body => .tagged "Strong" (.array (toJsons body))
  | .code text => .tagged "Code" (.text text)
  | .link body target =>
      .tagged "Link" (.array [.array (toJsons body), JsonForm.toJson target])
  | .image body url => .tagged "Image" (.array [.array (toJsons body), .text url])
  | .formField field => .tagged "FormField" (JsonForm.toJson field)
termination_by structural inline => inline

/-- Some encoded inlines. -/
def toJsons : List Inline → List Json
  | [] => []
  | first :: rest => toJson first :: toJsons rest
termination_by structural inlines => inlines

end

mutual

/-- Reads an inline. -/
def ofJson? (room : Nat) (j : Json) : Option Inline :=
  match j with
  | .string (some name) => ofName? name
  | .object [(some name, content)] =>
      match room with
      | 0 => none
      | room + 1 =>
          match name, content with
          | "Str", content => content.text?.map .str
          | "Entity", content => content.text?.map .entity
          | "Emph", content => (listOfJson? room content).map .emph
          | "Strong", content => (listOfJson? room content).map .strong
          | "Code", content => content.text?.map .code
          | "Link", .array [body, target] =>
              match room with
              | 0 => none
              | room + 1 => do
                  let body ← listOfJson? room body
                  let target ← JsonForm.ofJson? room target
                  return .link body target
          | "Image", .array [body, url] =>
              match room with
              | 0 => none
              | room + 1 => do
                  let body ← listOfJson? room body
                  let url ← url.text?
                  return .image body url
          | "FormField", content => (JsonForm.ofJson? room content).map .formField
          | name, .null => ofName? name
          | _, _ => none
  | _ => none
termination_by structural room

/-- Reads a list of inlines. -/
def listOfJson? (room : Nat) (j : Json) : Option (List Inline) :=
  match room, j with
  | room + 1, .array items => items.mapM (ofJson? room)
  | _, _ => none
termination_by structural room

end

instance : JsonForm Inline where
  toJson := toJson
  ofJson? := ofJson?

end Inline

/-! ## Blocks -/

namespace Block

mutual

/-- An encoded block. -/
def toJson : Block → Json
  | .paragraph body => .tagged "Paragraph" (.array (Inline.toJsons body))
  | .header level body =>
      .tagged "Header" (.array [.nat level.toNat, .array (Inline.toJsons body)])
  | .blockquote body => .tagged "Blockquote" (.array (toJsons body))
  | .list kind items =>
      .tagged "List" (.array [JsonForm.toJson kind, .array (itemsToJsons items)])
  | .codeBlock lines => .tagged "CodeBlock" (Json.ofList .text lines)
  | .linkReference label url => .tagged "LinkReference" (.array [.text label, .text url])
  | .rule => .text "Rule"
termination_by structural block => block

/-- Some encoded blocks. -/
def toJsons : List Block → List Json
  | [] => []
  | first :: rest => toJson first :: toJsons rest
termination_by structural blocks => blocks

/-- The encoded items of a list. -/
def itemsToJsons : List (List Block) → List Json
  | [] => []
  | first :: rest => .array (toJsons first) :: itemsToJsons rest
termination_by structural items => items

end

mutual

/-- Reads a block. -/
def ofJson? (room : Nat) (j : Json) : Option Block :=
  match j with
  | .string (some "Rule") => some .rule
  | .object [(some name, content)] =>
      match room with
      | 0 => none
      | room + 1 =>
          match name, content with
          | "Paragraph", content => (Inline.listOfJson? room content).map .paragraph
          | "Header", .array [level, body] =>
              Json.opening room fun room => do
                let level ← level.octet?
                let body ← Inline.listOfJson? room body
                return .header level body
          | "Blockquote", content => (listOfJson? room content).map .blockquote
          | "List", .array [kind, items] =>
              match room with
              | 0 => none
              | room + 1 => do
                  let kind ← JsonForm.ofJson? room kind
                  let items ← itemsOfJson? room items
                  return .list kind items
          | "CodeBlock", content => (Json.list? Json.leafText? room content).map .codeBlock
          | "LinkReference", .array [label, url] =>
              Json.opening room fun _ => do
                let label ← label.text?
                let url ← url.text?
                return .linkReference label url
          | "Rule", .null => some .rule
          | _, _ => none
  | _ => none
termination_by structural room

/-- Reads a list of blocks. -/
def listOfJson? (room : Nat) (j : Json) : Option (List Block) :=
  match room, j with
  | room + 1, .array items => items.mapM (ofJson? room)
  | _, _ => none
termination_by structural room

/-- Reads the items of a list. -/
def itemsOfJson? (room : Nat) (j : Json) : Option (List (List Block)) :=
  match room, j with
  | room + 1, .array items => items.mapM (listOfJson? room)
  | _, _ => none
termination_by structural room

end

instance : JsonForm Block where
  toJson := toJson
  ofJson? := ofJson?

end Block

instance : JsonForm Document where
  toJson doc := .array (Block.toJsons doc.blocks)
  ofJson? room j := (Block.listOfJson? room j).map Document.mk

end ProseForms
