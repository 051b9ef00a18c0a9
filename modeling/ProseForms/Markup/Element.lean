import ProseForms.Markup.Binding

/-!
# Elements

An element is described apart from its children: a tag, some attributes, and on
a control the binding.  The tags and attributes are those that documents and
form controls need.
-/

namespace ProseForms

/-- The name of an element. -/
inductive Tag where
  | p
  | h1
  | h2
  | h3
  | h4
  | h5
  | h6
  | blockquote
  | ul
  | ol
  | li
  | pre
  | code
  | a
  | hr
  | br
  | em
  | strong
  | img
  | span
  | label
  | input
  | select
  | option
deriving DecidableEq

namespace Tag

/-- The heading of a level; levels below one count as one and levels above six as
six. -/
def heading (level : UInt8) : Tag :=
  if level ≤ 1 then h1
  else if level = 2 then h2
  else if level = 3 then h3
  else if level = 4 then h4
  else if level = 5 then h5
  else h6

/-- A tag as it is written. -/
def name : Tag → String
  | p => "p"
  | h1 => "h1"
  | h2 => "h2"
  | h3 => "h3"
  | h4 => "h4"
  | h5 => "h5"
  | h6 => "h6"
  | blockquote => "blockquote"
  | ul => "ul"
  | ol => "ol"
  | li => "li"
  | pre => "pre"
  | code => "code"
  | a => "a"
  | hr => "hr"
  | br => "br"
  | em => "em"
  | strong => "strong"
  | img => "img"
  | span => "span"
  | label => "label"
  | input => "input"
  | select => "select"
  | option => "option"

/-- All tags. -/
def all : List Tag :=
  [p, h1, h2, h3, h4, h5, h6, blockquote, ul, ol, li, pre, code, a, hr, br, em, strong,
    img, span, label, input, select, option]

/-- The tag with a given name. -/
def ofName? (name : String) : Option Tag :=
  all.find? (·.name = name)

end Tag

/-- The attributes of an element.  An attribute that is absent is not written. -/
structure Attributes where
  id : Option String := none
  name : Option String := none
  inputType : Option String := none
  value : Option String := none
  href : Option String := none
  src : Option String := none
  alt : Option String := none
  forId : Option String := none
  checked : Bool := false
  selected : Bool := false
deriving DecidableEq

/-- The attributes that have a value, under the names that markup gives them and
in the order in which they are written. -/
def Attributes.valued (attributes : Attributes) : List (String × Option String) := [
  ("id", attributes.id), ("name", attributes.name), ("type", attributes.inputType),
  ("value", attributes.value), ("href", attributes.href), ("src", attributes.src),
  ("alt", attributes.alt), ("for", attributes.forId)]

/-- The attributes that are either there or not, in the order in which they are
written. -/
def Attributes.flags (attributes : Attributes) : List (String × Bool) :=
  [("checked", attributes.checked), ("selected", attributes.selected)]

/-- An element without its children. -/
structure Element where
  tag : Tag
  attributes : Attributes := {}
  binding : Option Binding := none
deriving DecidableEq

end ProseForms
