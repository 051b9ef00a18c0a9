/-!
# Lines of a text

A line ends at a line feed; a carriage return right before it belongs to the
line end.
-/

namespace ProseForms.Text

/-- A line without the carriage return of its line end. -/
def dropReturn (line : List Char) : List Char :=
  if line.getLast? = some '\r' then line.dropLast else line

/-- The lines of a text.  What follows the last line feed is a line too, also
when it is empty. -/
def lines (s : String) : List (List Char) :=
  (s.toList.splitOn '\n').map dropReturn

end ProseForms.Text
