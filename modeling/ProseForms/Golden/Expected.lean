import ProseForms.Markup.Snapshot
import ProseForms.Text.Blank
import ProseForms.Text.Lines

/-!
# Expected snapshots

A file with an expected snapshot holds the lines of the snapshot, and headers in
lines that start with a number sign.  The first header names the format.  White
space at the end of a line and blank lines mean nothing.
-/

namespace ProseForms.Golden

/-- Why a file holds no expected snapshot. -/
inductive ExpectedError where
  | unreadable
  | unsupportedHeader (key : String)
  | firstHeader (key : String)
  | duplicateHeader (key : String)
  | missingFormat
  | unsupportedFormat
  | noLines
deriving DecidableEq

/-- What is said about a file at some path. -/
def ExpectedError.message (path : String) : ExpectedError → String
  | .unreadable => "failed to read expected markup file " ++ Text.quoted path
  | .unsupportedHeader key =>
      "unsupported header '" ++ key ++ "' in " ++ Text.quoted path
  | .firstHeader key =>
      "first header must be 'format' in " ++ Text.quoted path ++
        ", found '" ++ key ++ "'"
  | .duplicateHeader key =>
      "duplicate header '" ++ key ++ "' in " ++ Text.quoted path
  | .missingFormat => "missing required 'format' header in " ++ Text.quoted path
  | .unsupportedFormat => "unsupported format in " ++ Text.quoted path
  | .noLines => "expected markup file " ++ Text.quoted path ++ " has no snapshot lines"

/-! ## Lines -/

/-- What a line of the file is. -/
inductive ExpectedLine where
  | blank
  | comment
  | header (key value : String)
  | content (text : String)
deriving DecidableEq

/-- The line with some characters after its number sign.  Without a colon it is a
comment; the key before the colon is compared in lower case. -/
def ExpectedLine.ofNote (note : List Char) : ExpectedLine :=
  let trimmed := Text.trimChars note
  match trimmed.dropWhile (· ≠ ':') with
  | [] => .comment
  | _ :: value =>
      let key := Text.trimChars (trimmed.takeWhile (· ≠ ':'))
      .header (String.ofList (key.map Char.toLower)) (String.ofList (Text.trimChars value))

/-- The line with some characters. -/
def ExpectedLine.ofChars (line : List Char) : ExpectedLine :=
  match Text.trimEndChars line with
  | [] => .blank
  | '#' :: note => .ofNote note
  | cs => .content (String.ofList cs)

/-! ## Reading -/

/-- The key of the header that names the format. -/
def formatKey : String := "format"

/-- The keys that headers may have. -/
def headerKeys : List String :=
  [formatKey, "description"]

/-- What was read so far; the last header and the last line come first. -/
structure ExpectedReading where
  headers : List (String × String) := []
  lines : List String := []
deriving DecidableEq

/-- Reads a header. -/
def ExpectedReading.header (reading : ExpectedReading) (key value : String) :
    Except ExpectedError ExpectedReading :=
  if key ∉ headerKeys then .error (.unsupportedHeader key)
  else if reading.headers.isEmpty ∧ key ≠ formatKey then .error (.firstHeader key)
  else if key ∈ reading.headers.map Prod.fst then .error (.duplicateHeader key)
  else .ok { reading with headers := (key, value) :: reading.headers }

/-- Reads a line. -/
def ExpectedReading.step (reading : ExpectedReading) :
    ExpectedLine → Except ExpectedError ExpectedReading
  | .blank | .comment => .ok reading
  | .header key value => reading.header key value
  | .content text => .ok { reading with lines := text :: reading.lines }

/-- The lines of the snapshot, when the whole file has been read. -/
def ExpectedReading.finish (reading : ExpectedReading) :
    Except ExpectedError (List String) :=
  match reading.headers.lookup formatKey with
  | none => .error .missingFormat
  | some format =>
      if format ≠ Snapshot.formatName then .error .unsupportedFormat
      else if reading.lines.isEmpty then .error .noLines
      else .ok reading.lines.reverse

/-- The lines of the snapshot that a file's content holds. -/
def parseExpected (content : String) : Except ExpectedError (List String) := do
  let reading ← ((Text.lines content).map ExpectedLine.ofChars).foldlM
    ExpectedReading.step {}
  reading.finish

/-- The lines of the snapshot in a file, which may be absent or hold no text. -/
def readExpected (content : Option ByteArray) : Except ExpectedError (List String) :=
  match content.bind String.fromUTF8? with
  | some content => parseExpected content
  | none => .error .unreadable

end ProseForms.Golden
