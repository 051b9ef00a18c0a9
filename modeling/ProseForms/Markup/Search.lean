import ProseForms.Markup.Node

/-!
# Searching markup

Searches go depth first and look at an element before its children.  An action
on an id reaches the first element with that id and no other.
-/

namespace ProseForms.Node

mutual

/-- The first node with an id, in the node itself and below it. -/
def find? (id : String) : Node → Option Node
  | text _ => none
  | element head children =>
      if head.attributes.id = some id then some (.element head children)
      else findIn? id children
termination_by structural node => node

/-- The first node with an id in a forest. -/
def findIn? (id : String) : List Node → Option Node
  | [] => none
  | node :: rest =>
      match node.find? id with
      | some found => some found
      | none => findIn? id rest
termination_by structural nodes => nodes

end

mutual

/-- The elements with a tag, in the node itself and below it, in document order. -/
def withTag (tag : Tag) : Node → List Node
  | text _ => []
  | element head children =>
      if head.tag = tag then .element head children :: withTagIn tag children
      else withTagIn tag children
termination_by structural node => node

/-- The elements with a tag in a forest, in document order. -/
def withTagIn (tag : Tag) : List Node → List Node
  | [] => []
  | node :: rest => node.withTag tag ++ withTagIn tag rest
termination_by structural nodes => nodes

end

/-- The edit that an action on the element with an id raises.  There is none when
no element has the id, or when the first one that has it does not react. -/
def dispatch? (nodes : List Node) (id : String) (notification : Notification) : Option Edit :=
  (findIn? id nodes).bind fun node =>
    node.binding?.bind (·.resolve? notification)

end ProseForms.Node
