/-!
# Parts of a text
-/

namespace ProseForms.Text

/-- Whether some characters occur in a row among others. -/
def containsChars (part : List Char) : List Char → Bool
  | [] => part.isEmpty
  | c :: rest => part.isPrefixOf (c :: rest) || containsChars part rest

/-- Whether a text occurs in another one. -/
def contains (s part : String) : Bool :=
  containsChars part.toList s.toList

end ProseForms.Text
