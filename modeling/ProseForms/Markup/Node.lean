import ProseForms.Markup.Builder

/-!
# Nodes

A node is a text, or an element with child nodes.  A forest is a list of nodes.
`Node.fold` hands a node to any other builder.
-/

namespace ProseForms

/-- A piece of rendered markup. -/
inductive Node where
  | text (content : String)
  | element (head : Element) (children : List Node)

/-- Builds nodes. -/
def Builder.tree : Builder Node where
  text := .text
  element := .element

namespace Node

/-- The element without its children, unless the node is a text. -/
def head? : Node → Option Element
  | text _ => none
  | element head _ => some head

/-- The child nodes; a text has none. -/
def children : Node → List Node
  | text _ => []
  | element _ children => children

/-- The tag of an element. -/
def tag? (node : Node) : Option Tag :=
  node.head?.map Element.tag

/-- The id of an element that has one. -/
def id? (node : Node) : Option String :=
  node.head?.bind (·.attributes.id)

/-- The binding of a control. -/
def binding? (node : Node) : Option Binding :=
  node.head?.bind Element.binding

mutual

/-- A node made again by another builder. -/
def fold {N : Type} (builder : Builder N) : Node → N
  | text content => builder.text content
  | element head children => builder.element head (foldAll builder children)
termination_by structural node => node

/-- A forest made again by another builder. -/
def foldAll {N : Type} (builder : Builder N) : List Node → List N
  | [] => []
  | node :: rest => node.fold builder :: foldAll builder rest
termination_by structural nodes => nodes

end

mutual

/-- The texts in a node, one after the other. -/
def textContent : Node → String
  | text content => content
  | element _ children => textContentOf children
termination_by structural node => node

/-- The texts in a forest, one after the other. -/
def textContentOf : List Node → String
  | [] => ""
  | node :: rest => node.textContent ++ textContentOf rest
termination_by structural nodes => nodes

end

/-! ## Equality -/

mutual

/-- Decides whether two nodes are equal. -/
def decEq (a b : Node) : Decidable (a = b) :=
  match a with
  | text s => match b with
    | text t => decidable_of_iff (s = t) (by simp)
    | element .. => isFalse nofun
  | element head xs => match b with
    | text _ => isFalse nofun
    | element head' ys =>
      have := decEqAll xs ys
      decidable_of_iff (head = head' ∧ xs = ys) (by simp)
termination_by structural a

/-- Decides whether two forests are equal. -/
def decEqAll (as bs : List Node) : Decidable (as = bs) :=
  match as, bs with
  | [], [] => isTrue rfl
  | [], _ :: _ | _ :: _, [] => isFalse nofun
  | a :: as, b :: bs =>
    have := decEq a b
    have := decEqAll as bs
    decidable_of_iff (a = b ∧ as = bs) (by simp)
termination_by structural as

end

instance : DecidableEq Node := decEq

end Node

end ProseForms
