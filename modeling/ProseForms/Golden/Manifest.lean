import ProseForms.Text.Hex

/-!
# Manifests

The manifest of a fixture is a TOML file with one string a line: a prefix for
ids, and if it likes a description.  Keys are bare or quoted; strings stand on
one line, between quotation marks with escapes or between apostrophes without.
-/

namespace ProseForms.Golden

/-- What a manifest says. -/
structure Manifest where
  idPrefix : String
  description : Option String
deriving DecidableEq

namespace Manifest

/-- What a quoted string is: the key of an entry, or the value under a key. -/
inductive Role where
  | key
  | value (key : String)
deriving DecidableEq

/-- Where in the file the reader stands.  Characters read so far are kept with the
last one first. -/
inductive Place where
  | lineStart
  | bareKey (chars : List Char)
  | afterKey (key : String)
  | beforeValue (key : String)
  | literal (role : Role) (chars : List Char)
  | basic (role : Role) (chars : List Char)
  /-- After a backslash. -/
  | escape (role : Role) (chars : List Char)
  /-- In the number of a character: the digits still to come, and the value so far. -/
  | number (role : Role) (chars : List Char) (missing value : Nat)
  | afterEntry
  | comment
  /-- After a carriage return, which a line feed has to follow. -/
  | lineEnd
deriving DecidableEq

/-- The entries read so far, last one first, and where the reader stands. -/
structure Reading where
  entries : List (String × String) := []
  place : Place := .lineStart
deriving DecidableEq

/-- Whether a character may stand in a bare key. -/
def isBare (c : Char) : Bool :=
  c.isAlphanum || c = '_' || c = '-'

/-- Whether a character may stand between others on a line. -/
def isGap (c : Char) : Bool :=
  c = ' ' || c = '\t'

/-- Whether a character may stand for itself in a string or a comment. -/
def isPlain (c : Char) : Bool :=
  c = '\t' || 0x20 ≤ c.toNat && c ≠ '\x7f'

/-- The character that a letter after a backslash stands for. -/
def escapedChar? : Char → Option Char
  | 'b' => some '\x08'
  | 't' => some '\t'
  | 'n' => some '\n'
  | 'f' => some '\x0c'
  | 'r' => some '\r'
  | 'e' => some '\x1b'
  | '"' => some '"'
  | '\\' => some '\\'
  | _ => none

/-- How many digits follow a letter after a backslash that announces a number. -/
def numberLength? : Char → Option Nat
  | 'x' => some 2
  | 'u' => some 4
  | 'U' => some 8
  | _ => none

/-- The character with a number, if there is one. -/
def char? (n : Nat) : Option Char :=
  if n.isValidChar then some (Char.ofNat n) else none

namespace Reading

/-- Moves on within the file. -/
def moveTo (reading : Reading) (place : Place) : Reading :=
  { reading with place := place }

/-- Ends a quoted string. -/
def closeString (reading : Reading) (role : Role) (chars : List Char) : Reading :=
  let text := String.ofList chars.reverse
  match role with
  | .key => reading.moveTo (.afterKey text)
  | .value key => ⟨(key, text) :: reading.entries, .afterEntry⟩

/-- Opens a quoted string. -/
def openString? (reading : Reading) (role : Role) (c : Char) : Option Reading :=
  if c = '"' then some (reading.moveTo (.basic role []))
  else if c = '\'' then some (reading.moveTo (.literal role []))
  else none

/-- Reads a character where only the rest of the line can be skipped. -/
def lineRest? (reading : Reading) (c : Char) : Option Reading :=
  if isGap c then some reading
  else if c = '\n' then some (reading.moveTo .lineStart)
  else if c = '\r' then some (reading.moveTo .lineEnd)
  else if c = '#' then some (reading.moveTo .comment)
  else none

/-- Reads one character. -/
def step (reading : Reading) (c : Char) : Option Reading :=
  match reading.place with
  | .lineStart =>
      if isBare c then some (reading.moveTo (.bareKey [c]))
      else (reading.openString? .key c).or (reading.lineRest? c)
  | .bareKey chars =>
      if isBare c then some (reading.moveTo (.bareKey (c :: chars)))
      else if isGap c then some (reading.moveTo (.afterKey (String.ofList chars.reverse)))
      else if c = '=' then some (reading.moveTo (.beforeValue (String.ofList chars.reverse)))
      else none
  | .afterKey key =>
      if isGap c then some reading
      else if c = '=' then some (reading.moveTo (.beforeValue key))
      else none
  | .beforeValue key =>
      if isGap c then some reading else reading.openString? (.value key) c
  | .literal role chars =>
      if c = '\'' then some (reading.closeString role chars)
      else if isPlain c then some (reading.moveTo (.literal role (c :: chars)))
      else none
  | .basic role chars =>
      if c = '"' then some (reading.closeString role chars)
      else if c = '\\' then some (reading.moveTo (.escape role chars))
      else if isPlain c then some (reading.moveTo (.basic role (c :: chars)))
      else none
  | .escape role chars =>
      match numberLength? c with
      | some length => some (reading.moveTo (.number role chars length 0))
      | none => (escapedChar? c).map fun plain => reading.moveTo (.basic role (plain :: chars))
  | .number role chars missing value =>
      (Text.hexValue? c).bind fun digit =>
        if missing ≤ 1 then
          (char? (16 * value + digit)).map fun plain =>
            reading.moveTo (.basic role (plain :: chars))
        else some (reading.moveTo (.number role chars (missing - 1) (16 * value + digit)))
  | .afterEntry => reading.lineRest? c
  | .comment =>
      if c = '\n' then some (reading.moveTo .lineStart)
      else if c = '\r' then some (reading.moveTo .lineEnd)
      else if isPlain c then some reading
      else none
  | .lineEnd => if c = '\n' then some (reading.moveTo .lineStart) else none

/-- The entries of a file that ends here, in order. -/
def finish (reading : Reading) : Option (List (String × String)) :=
  match reading.place with
  | .lineStart | .afterEntry | .comment => some reading.entries.reverse
  | _ => none

end Reading

/-- The entries of a file, in order.  A byte order mark in front means nothing. -/
def entries? (content : String) : Option (List (String × String)) :=
  let cs := match content.toList with
    | '\ufeff' :: rest => rest
    | cs => cs
  (cs.foldlM Reading.step {}).bind Reading.finish

/-- The manifest with some entries: each key at most once, and no others. -/
def ofEntries? (entries : List (String × String)) : Option Manifest :=
  let keys := entries.map Prod.fst
  if keys.all (· ∈ ["prefix", "description"]) ∧ keys.Nodup then
    (entries.lookup "prefix").map fun idPrefix => ⟨idPrefix, entries.lookup "description"⟩
  else none

/-- The manifest that a file's content is. -/
def parse? (content : String) : Option Manifest :=
  (entries? content).bind ofEntries?

end Manifest

end ProseForms.Golden
