import ProseForms.Markup.Node

/-!
# Snapshots

A snapshot writes a forest as lines: one node a line, children two blanks
further in than their parent.  Texts and attribute values are quoted; a binding
stands last in its element.
-/

namespace ProseForms.Snapshot

/-- The name of the format. -/
def formatName : String := "markup-snapshot-v1"

/-- One character of a quoted text: only what would break the line or end the
quotes is escaped. -/
def escapedChar : Char → List Char
  | '\n' => ['\\', 'n']
  | '\r' => ['\\', 'r']
  | '\t' => ['\\', 't']
  | '"' => ['\\', '"']
  | '\\' => ['\\', '\\']
  | c => [c]

/-- A text or an attribute value between double quotes. -/
def quoted (s : String) : String :=
  String.ofList (['"'] ++ s.toList.flatMap escapedChar ++ ['"'])

/-- What an opening tag says about its attributes. -/
def attributesText (attributes : Attributes) : String :=
  String.join
    ((attributes.valued.map fun (name, value) =>
        match value with
        | some value => " " ++ name ++ "=" ++ quoted value
        | none => "") ++
      attributes.flags.map fun (name, present) => if present then " " ++ name else "")

/-- The opening tag of an element. -/
def elementText (head : Element) : String :=
  "<" ++ head.tag.name ++ attributesText head.attributes ++
    (match head.binding with
      | some binding => " bind=" ++ binding.display
      | none => "") ++ ">"

/-- The blanks in front of a line. -/
def indentation (depth : Nat) : String :=
  String.ofList (List.replicate (2 * depth) ' ')

mutual

/-- The lines of a node that stands at some depth. -/
def nodeLines (depth : Nat) : Node → List String
  | .text content => [indentation depth ++ quoted content]
  | .element head children =>
      (indentation depth ++ elementText head) :: forestLines (depth + 1) children
termination_by structural node => node

/-- The lines of a forest that stands at some depth. -/
def forestLines (depth : Nat) : List Node → List String
  | [] => []
  | node :: rest => nodeLines depth node ++ forestLines depth rest
termination_by structural nodes => nodes

end

/-- The lines of a snapshot. -/
def lines (nodes : List Node) : List String :=
  forestLines 0 nodes

/-- A snapshot as one text, without a line feed at its end. -/
def render (nodes : List Node) : String :=
  "\n".intercalate (lines nodes)

end ProseForms.Snapshot
