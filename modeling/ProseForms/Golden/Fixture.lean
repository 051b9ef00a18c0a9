import ProseForms.Encoding.Answers
import ProseForms.Encoding.Document
import ProseForms.Golden.Expected
import ProseForms.Golden.Manifest
import ProseForms.Text.Contains

/-!
# Fixtures

A fixture is a directory with a document, the edits that are made to its form,
and the snapshot that is expected then.  Fixtures are loaded in the order of
their names, and the first one that cannot be loaded stops the rest.
-/

namespace ProseForms.Golden

/-- A file or a directory. -/
inductive Entry where
  | file (content : ByteArray)
  | directory (entries : List (String × Entry))

/-- A rendering test. -/
structure Fixture where
  name : String
  idPrefix : String
  description : Option String
  document : Document
  edits : List Edit
  expected : List String

/-- Why fixtures cannot be loaded. -/
inductive FixtureError where
  | unreadableRoot (path : String)
  | paddedName (name : String)
  | unreadable (path : String)
  | invalidManifest (path : String)
  | invalidDocument (path : String)
  | invalidEvents (path : String)
  | expected (path : String) (cause : ExpectedError)
deriving DecidableEq

/-- What is said about fixtures that cannot be loaded. -/
def FixtureError.message : FixtureError → String
  | .unreadableRoot path => "failed to read fixture root " ++ Text.quoted path
  | .paddedName name => "fixture directory has leading/trailing whitespace: '" ++ name ++ "'"
  | .unreadable path => "failed to read " ++ Text.quoted path
  | .invalidManifest path => "invalid manifest " ++ Text.quoted path
  | .invalidDocument path => "invalid document " ++ Text.quoted path
  | .invalidEvents path => "invalid events " ++ Text.quoted path
  | .expected path cause => cause.message path

namespace Fixture

/-- The content of a file in a directory. -/
def content? (directory : List (String × Entry)) (file : String) : Option ByteArray :=
  match directory.lookup file with
  | some (.file content) => some content
  | _ => none

/-- The text of a file in the directory at a path. -/
def loadText (path : String) (directory : List (String × Entry)) (file : String) :
    Except FixtureError String :=
  match (content? directory file).bind String.fromUTF8? with
  | some text => .ok text
  | none => .error (.unreadable (path ++ "/" ++ file))

/-- A value that has to be there. -/
def require {α : Type} (error : FixtureError) : Option α → Except FixtureError α
  | some a => .ok a
  | none => .error error

/-- The edits of a fixture; a fixture without the file has none. -/
def loadEdits (path : String) (directory : List (String × Entry)) :
    Except FixtureError (List Edit) :=
  match content? directory "events.json" with
  | none => .ok []
  | some _ => do
      let text ← loadText path directory "events.json"
      require (.invalidEvents (path ++ "/events.json")) (JsonForm.decode? text)

/-- The fixture in the directory at a path. -/
def load (path name : String) (directory : List (String × Entry)) :
    Except FixtureError Fixture := do
  let manifest ← loadText path directory "fixture.toml"
  let manifest ← require (.invalidManifest (path ++ "/fixture.toml")) (Manifest.parse? manifest)
  let document ← loadText path directory "document.json"
  let document ← require (.invalidDocument (path ++ "/document.json"))
    (JsonForm.decode? document)
  let edits ← loadEdits path directory
  let expected ← (readExpected (content? directory "markup.txt")).mapError
    (.expected (path ++ "/markup.txt"))
  return ⟨name, manifest.idPrefix, manifest.description, document, edits, expected⟩

/-- The fixture under a name of the root, if there is one: files and hidden
directories are none. -/
def loadEntry (root : String) : String × Entry → Except FixtureError (Option Fixture)
  | (_, .file _) => .ok none
  | (name, .directory entries) =>
      if Text.trim name ≠ name then .error (.paddedName name)
      else if name.toList.head? = some '.' then .ok none
      else (load (root ++ "/" ++ name) name entries).map some

/-- The fixtures in a root directory, which may be absent, in the order of their
names. -/
def loadAll (root : String) (entries : Option (List (String × Entry))) :
    Except FixtureError (List Fixture) :=
  match entries with
  | none => .error (.unreadableRoot root)
  | some entries =>
      ((entries.mergeSort fun a b => a.1 ≤ b.1).mapM (loadEntry root)).map
        (·.filterMap id)

/-- Whether a filter selects a fixture: its name has the filter as a part.  Without
a filter all are selected. -/
def isSelected (filter : Option String) (name : String) : Bool :=
  match filter with
  | some part => Text.contains name part
  | none => true

end Fixture

end ProseForms.Golden
