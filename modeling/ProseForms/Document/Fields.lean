import ProseForms.Document.Basic

/-!
# The form fields of a document

Document order is left to right and depth first: through quotes, list items,
emphasis, links and the bodies of images.
-/

namespace ProseForms

mutual

/-- The form fields of an inline, in document order. -/
def Inline.fields : Inline → List FormField
  | .formField field => [field]
  | .emph body | .strong body | .link body _ | .image body _ => Inline.fieldsOf body
  | .str _ | .entity _ | .space | .softBreak | .lineBreak | .code _ => []
termination_by structural inline => inline

/-- The form fields of a run of inlines, in document order. -/
def Inline.fieldsOf : List Inline → List FormField
  | [] => []
  | inline :: rest => inline.fields ++ Inline.fieldsOf rest
termination_by structural inlines => inlines

end

mutual

/-- The form fields of a block, in document order. -/
def Block.fields : Block → List FormField
  | .paragraph body | .header _ body => Inline.fieldsOf body
  | .blockquote body => Block.fieldsOf body
  | .list _ items => Block.fieldsOfItems items
  | .codeBlock _ | .linkReference .. | .rule => []
termination_by structural block => block

/-- The form fields of a run of blocks, in document order. -/
def Block.fieldsOf : List Block → List FormField
  | [] => []
  | block :: rest => block.fields ++ Block.fieldsOf rest
termination_by structural blocks => blocks

/-- The form fields of the items of a list, in document order. -/
def Block.fieldsOfItems : List (List Block) → List FormField
  | [] => []
  | item :: rest => Block.fieldsOf item ++ Block.fieldsOfItems rest
termination_by structural items => items

end

/-- The form fields of a document, in document order. -/
def Document.fields (doc : Document) : List FormField :=
  Block.fieldsOf doc.blocks

end ProseForms
