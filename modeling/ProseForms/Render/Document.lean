import ProseForms.Document.PlainText
import ProseForms.Markup.Node
import ProseForms.Render.Field

/-!
# Rendering documents

Every inline and every block becomes one node.  Ids are taken in document order.
The body of an image becomes its alternative text, so no field in it is
rendered.
-/

namespace ProseForms

/-- The tag of a list. -/
def ListKind.tag : ListKind → Tag
  | .bullet => .ul
  | .ordered => .ol

namespace Renderer

variable {N : Type}

mutual

/-- An inline. -/
def inline (r : Renderer N) : Inline → Pass N
  | .str content | .entity content => return r.text content
  | .space => return r.text " "
  | .softBreak => return r.text "\n"
  | .lineBreak => return r.element ⟨.br, {}, none⟩ []
  | .emph body => do return r.element ⟨.em, {}, none⟩ (← inlines r body)
  | .strong body => do return r.element ⟨.strong, {}, none⟩ (← inlines r body)
  | .code content => return r.element ⟨.code, {}, none⟩ [r.text content]
  | .link body target => do
      return r.element ⟨.a, { href := some target.href }, none⟩ (← inlines r body)
  | .image body url =>
      return r.element
        ⟨.img, { src := some url, alt := some (Inline.plainTextOf body) }, none⟩ []
  | .formField field => r.field field
termination_by structural inline => inline

/-- A run of inlines. -/
def inlines (r : Renderer N) : List Inline → Pass (List N)
  | [] => return []
  | first :: rest => do
      let node ← inline r first
      let nodes ← inlines r rest
      return node :: nodes
termination_by structural inlines => inlines

end

/-- A link reference: its label, then an anchor of that name with the address. -/
def linkReference (r : Renderer N) (label url : String) : N :=
  let anchor : Attributes := { id := some label, name := some label, href := some url }
  r.element ⟨.p, {}, none⟩ [r.text label, r.element ⟨.a, anchor, none⟩ [r.text url]]

mutual

/-- A block. -/
def block (r : Renderer N) : Block → Pass N
  | .paragraph body => do return r.element ⟨.p, {}, none⟩ (← r.inlines body)
  | .header level body => do
      return r.element ⟨.heading level, {}, none⟩ (← r.inlines body)
  | .blockquote body => do return r.element ⟨.blockquote, {}, none⟩ (← blocks r body)
  | .list kind entries => do return r.element ⟨kind.tag, {}, none⟩ (← items r entries)
  | .codeBlock lines =>
      return r.element ⟨.pre, {}, none⟩
        [r.element ⟨.code, {}, none⟩ [r.text ("\n".intercalate lines)]]
  | .linkReference label url => return r.linkReference label url
  | .rule => return r.element ⟨.hr, {}, none⟩ []
termination_by structural block => block

/-- A run of blocks. -/
def blocks (r : Renderer N) : List Block → Pass (List N)
  | [] => return []
  | first :: rest => do
      let node ← block r first
      let nodes ← blocks r rest
      return node :: nodes
termination_by structural blocks => blocks

/-- The items of a list. -/
def items (r : Renderer N) : List (List Block) → Pass (List N)
  | [] => return []
  | first :: rest => do
      let body ← blocks r first
      let nodes ← items r rest
      return r.element ⟨.li, {}, none⟩ body :: nodes
termination_by structural entries => entries

end

/-- A whole rendering: the nodes, the supply that is left, and the notices. -/
def run (r : Renderer N) (doc : Document) : Pass.Result (List N) :=
  (r.blocks doc.blocks).run .start

end Renderer

/-- A document rendered by a builder, with some answers. -/
def Document.renderWith {N : Type} (builder : Builder N) (idPrefix : String)
    (answers : Answers) (doc : Document) : List N :=
  (Renderer.run ⟨builder, idPrefix, answers⟩ doc).value

/-- A document rendered as nodes, with some answers. -/
def Document.render (idPrefix : String) (answers : Answers) (doc : Document) : List Node :=
  doc.renderWith .tree idPrefix answers

/-- What rendering a document reports, in order. -/
def Document.renderNotices (idPrefix : String) (answers : Answers) (doc : Document) :
    List RenderNotice :=
  (Renderer.run ⟨.tree, idPrefix, answers⟩ doc).notices

end ProseForms
