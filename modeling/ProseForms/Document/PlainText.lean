import ProseForms.Document.Basic

/-!
# Inlines as plain text

The text that stands for inlines where no markup can, such as the alternative
text of an image.
-/

namespace ProseForms

mutual

/-- An inline without its markup.  Both kinds of break are line feeds, and a form
field reads as its label. -/
def Inline.plainText : Inline → String
  | .str text | .entity text | .code text => text
  | .space => " "
  | .softBreak | .lineBreak => "\n"
  | .emph body | .strong body | .link body _ | .image body _ => Inline.plainTextOf body
  | .formField field => field.label
termination_by structural inline => inline

/-- A run of inlines without its markup. -/
def Inline.plainTextOf : List Inline → String
  | [] => ""
  | inline :: rest => inline.plainText ++ Inline.plainTextOf rest
termination_by structural inlines => inlines

end

end ProseForms
