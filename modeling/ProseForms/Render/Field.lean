import ProseForms.Markup.Builder
import ProseForms.Render.Pass
import ProseForms.Render.Shown

/-!
# Rendering form fields

A field becomes a container with its label and its control.  The control takes
one id; each radio button and each check box takes another one, and carries a
label of its own.  A field that cannot be shown becomes a text and takes no id.
-/

namespace ProseForms

/-- What rendering needs to know besides the document. -/
structure Renderer (N : Type) where
  builder : Builder N
  /-- The scope of the ids. -/
  idPrefix : String
  answers : Answers

namespace Renderer

variable {N : Type}

/-- The text that stands for a field that cannot be shown. -/
def unsupportedText : String := "unsupported form element"

/-- The mark after the label of a required field. -/
def requiredMark : String := "*"

/-- A text node. -/
def text (r : Renderer N) (content : String) : N :=
  r.builder.text content

/-- An element over finished children. -/
def element (r : Renderer N) (head : Element) (children : List N) : N :=
  r.builder.element head children

/-- One radio button or check box with its label, as a list item. -/
def choice (r : Renderer N) (group inputType : String) (bind : String → Binding)
    (shown : String × Bool) : Pass N := do
  let id ← Pass.freshId r.idPrefix
  let input := r.element {
      tag := .input
      attributes := {
        id := some id, name := some group, inputType := some inputType,
        value := some shown.1, checked := shown.2 }
      binding := some (bind shown.1) } []
  let label := r.element ⟨.label, { forId := some id }, none⟩ [r.text shown.1]
  return r.element ⟨.li, {}, none⟩ [input, label]

/-- A group of radio buttons or check boxes, as a list. -/
def group (r : Renderer N) (group inputType : String) (bind : String → Binding)
    (shown : List (String × Bool)) : Pass N := do
  let items ← Pass.each (r.choice group inputType bind) shown
  return r.element ⟨.ul, {}, none⟩ items

/-- A text box. -/
def textBox (r : Renderer N) (id key : String) (kind : InputKind)
    (default : Option String) : N :=
  r.element {
      tag := .input
      attributes := {
        id := some id, name := some id, inputType := some kind.inputType,
        value := some (r.answers.shownText key default) }
      binding := some (.input kind key) } []

/-- A drop down. -/
def dropDown (r : Renderer N) (id key : String) (options : List String)
    (default : Option String) : N :=
  r.element {
      tag := .select
      attributes := { id := some id, name := some id }
      binding := some (.change key) }
    ((r.answers.shownOptions key options default).map fun (value, selected) =>
      r.element ⟨.option, { value := some value, selected := selected }, none⟩ [r.text value])

/-- What is reported about a group of check boxes: that its flags and options do not
pair up, if the flags decide what is shown. -/
def boxNotices (r : Renderer N) (key : String) (flags : List Bool) (options : List String) :
    List RenderNotice :=
  if (r.answers.options? key).isNone ∧ flags.length ≠ options.length then
    [.unpaired key flags.length options.length]
  else []

/-- The control of a field; `id` is the id of the control, or the name of the
group. -/
def control (r : Renderer N) (id key : String) : Control → Pass N
  | .textBox kind default => return r.textBox id key kind default
  | .radioButtons default options =>
      r.group id "radio" (.choose key) (r.answers.shownRadios key default options)
  | .checkBoxes flags options => do
      Pass.report (r.boxNotices key flags options)
      r.group id "checkbox" (.toggle key) (r.answers.shownBoxes key flags options)
  | .dropDown options default => return r.dropDown id key options default

/-- The label of a field.  It belongs to the control, unless the control labels
its choices itself. -/
def fieldLabel (r : Renderer N) (id : String) (field : FormField) (control : Control) : N :=
  let forId := match control with
    | .textBox .. | .dropDown .. => some id
    | .radioButtons .. | .checkBoxes .. => none
  let content := if field.required then field.label ++ requiredMark else field.label
  r.element ⟨.label, { forId := forId }, none⟩ [r.text content]

/-- A form field. -/
def field (r : Renderer N) (field : FormField) : Pass N :=
  match field.spec.control? with
  | none => do
      Pass.report [.unsupported field.spec.typeName field.label]
      return r.text unsupportedText
  | some control => do
      let id ← Pass.freshId r.idPrefix
      Pass.report [.placed field.label id]
      let shown ← r.control id field.label control
      return r.element ⟨.span, {}, none⟩ [r.fieldLabel id field control, shown]

end Renderer

end ProseForms
