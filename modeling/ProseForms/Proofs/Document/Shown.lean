import ProseForms.Document.Fields

/-!
# The parts of a document that take ids

The body of an image is read as plain text, so a form field in it is a field of
the document but is never rendered.  The fields that are rendered are the fields
of the document with the bodies of its images emptied, in the same order;
`Block.shownFieldsOf_sublist` says that they are fields of the document.

Besides the fields only link references have ids, which are their labels.
-/

namespace ProseForms

/-! ## Emptying images -/

mutual

/-- An inline with the bodies of its images emptied. -/
def Inline.emptyImages : Inline → Inline
  | .image _ url => .image [] url
  | .emph body => .emph (Inline.emptyImagesIn body)
  | .strong body => .strong (Inline.emptyImagesIn body)
  | .link body target => .link (Inline.emptyImagesIn body) target
  | .str text => .str text
  | .entity text => .entity text
  | .space => .space
  | .softBreak => .softBreak
  | .lineBreak => .lineBreak
  | .code text => .code text
  | .formField field => .formField field
termination_by structural inline => inline

/-- A run of inlines with the bodies of its images emptied. -/
def Inline.emptyImagesIn : List Inline → List Inline
  | [] => []
  | inline :: rest => inline.emptyImages :: Inline.emptyImagesIn rest
termination_by structural inlines => inlines

end

mutual

/-- A block with the bodies of its images emptied. -/
def Block.emptyImages : Block → Block
  | .paragraph body => .paragraph (Inline.emptyImagesIn body)
  | .header level body => .header level (Inline.emptyImagesIn body)
  | .blockquote body => .blockquote (Block.emptyImagesIn body)
  | .list kind items => .list kind (Block.emptyImagesInItems items)
  | .codeBlock lines => .codeBlock lines
  | .linkReference label url => .linkReference label url
  | .rule => .rule
termination_by structural block => block

/-- A run of blocks with the bodies of its images emptied. -/
def Block.emptyImagesIn : List Block → List Block
  | [] => []
  | block :: rest => block.emptyImages :: Block.emptyImagesIn rest
termination_by structural blocks => blocks

/-- The items of a list with the bodies of their images emptied. -/
def Block.emptyImagesInItems : List (List Block) → List (List Block)
  | [] => []
  | item :: rest => Block.emptyImagesIn item :: Block.emptyImagesInItems rest
termination_by structural items => items

end

/-- The form fields of some blocks outside the bodies of images, in document
order. -/
def Block.shownFieldsOf (blocks : List Block) : List FormField :=
  Block.fieldsOf (Block.emptyImagesIn blocks)

/-- The form fields of a document outside the bodies of images, in document
order. -/
def Document.shownFields (doc : Document) : List FormField :=
  Block.shownFieldsOf doc.blocks

/-! ## Shown fields are fields of the document -/

mutual

theorem Inline.fields_emptyImages_sublist :
    ∀ inline : Inline, inline.emptyImages.fields.Sublist inline.fields
  | .image _ _ => List.nil_sublist _
  | .emph body => Inline.fieldsOf_emptyImagesIn_sublist body
  | .strong body => Inline.fieldsOf_emptyImagesIn_sublist body
  | .link body _ => Inline.fieldsOf_emptyImagesIn_sublist body
  | .formField _ => List.Sublist.refl _
  | .str _ | .entity _ | .space | .softBreak | .lineBreak | .code _ => List.Sublist.refl _
termination_by structural inline => inline

theorem Inline.fieldsOf_emptyImagesIn_sublist :
    ∀ inlines : List Inline,
      (Inline.fieldsOf (Inline.emptyImagesIn inlines)).Sublist (Inline.fieldsOf inlines)
  | [] => List.Sublist.refl _
  | inline :: rest =>
      (Inline.fields_emptyImages_sublist inline).append
        (Inline.fieldsOf_emptyImagesIn_sublist rest)
termination_by structural inlines => inlines

end

mutual

theorem Block.fields_emptyImages_sublist :
    ∀ block : Block, block.emptyImages.fields.Sublist block.fields
  | .paragraph body | .header _ body => Inline.fieldsOf_emptyImagesIn_sublist body
  | .blockquote body => Block.shownFieldsOf_sublist body
  | .list _ items => Block.fieldsOfItems_emptyImagesInItems_sublist items
  | .codeBlock _ | .linkReference .. | .rule => List.Sublist.refl _
termination_by structural block => block

/-- The shown fields are fields of the blocks, in the same order. -/
theorem Block.shownFieldsOf_sublist :
    ∀ blocks : List Block, (Block.shownFieldsOf blocks).Sublist (Block.fieldsOf blocks)
  | [] => List.Sublist.refl _
  | block :: rest =>
      (Block.fields_emptyImages_sublist block).append (Block.shownFieldsOf_sublist rest)
termination_by structural blocks => blocks

theorem Block.fieldsOfItems_emptyImagesInItems_sublist :
    ∀ items : List (List Block),
      (Block.fieldsOfItems (Block.emptyImagesInItems items)).Sublist
        (Block.fieldsOfItems items)
  | [] => List.Sublist.refl _
  | item :: rest =>
      (Block.shownFieldsOf_sublist item).append
        (Block.fieldsOfItems_emptyImagesInItems_sublist rest)
termination_by structural items => items

end

/-- A shown field is a field of the document. -/
theorem Document.mem_fields_of_mem_shownFields {doc : Document} {field : FormField}
    (h : field ∈ doc.shownFields) : field ∈ doc.fields :=
  (Block.shownFieldsOf_sublist doc.blocks).subset h

/-! ## Link references -/

mutual

/-- The labels of the link references in a block, in document order. -/
def Block.linkLabels : Block → List String
  | .linkReference label _ => [label]
  | .blockquote body => Block.linkLabelsOf body
  | .list _ items => Block.linkLabelsOfItems items
  | .paragraph _ | .header .. | .codeBlock _ | .rule => []
termination_by structural block => block

/-- The labels of the link references in a run of blocks, in document order. -/
def Block.linkLabelsOf : List Block → List String
  | [] => []
  | block :: rest => block.linkLabels ++ Block.linkLabelsOf rest
termination_by structural blocks => blocks

/-- The labels of the link references in the items of a list, in document order. -/
def Block.linkLabelsOfItems : List (List Block) → List String
  | [] => []
  | item :: rest => Block.linkLabelsOf item ++ Block.linkLabelsOfItems rest
termination_by structural items => items

end

/-- The labels of the link references of a document, in document order. -/
def Document.linkLabels (doc : Document) : List String :=
  Block.linkLabelsOf doc.blocks

end ProseForms
