import ProseForms.Field.Basic

/-!
# Documents

A document is a list of blocks; a block holds inlines, other blocks, or lines of
code; an inline is a piece of running text or a form field.
-/

namespace ProseForms

/-- Where a link leads. -/
inductive LinkTarget where
  /-- The address stands in the link. -/
  | inline (url : String)
  /-- The address is looked up under a label, if it is known at all. -/
  | reference (label : String) (url : Option String)
deriving DecidableEq

/-- The address of a link; a reference without one leads nowhere. -/
def LinkTarget.href : LinkTarget → String
  | .inline url => url
  | .reference _ url => url.getD ""

/-- A piece of running text. -/
inductive Inline where
  | str (text : String)
  | entity (text : String)
  | space
  | softBreak
  | lineBreak
  | emph (body : List Inline)
  | strong (body : List Inline)
  | code (text : String)
  | link (body : List Inline) (target : LinkTarget)
  | image (body : List Inline) (url : String)
  | formField (field : FormField)

/-- How the items of a list are marked. -/
inductive ListKind where
  | bullet
  | ordered
deriving DecidableEq

/-- A block of a document. -/
inductive Block where
  | paragraph (body : List Inline)
  | header (level : UInt8) (body : List Inline)
  | blockquote (body : List Block)
  | list (kind : ListKind) (items : List (List Block))
  | codeBlock (lines : List String)
  | linkReference (label url : String)
  | rule

/-- A whole document. -/
structure Document where
  blocks : List Block

end ProseForms
