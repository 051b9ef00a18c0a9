import ProseForms.Answers.Defaults
import ProseForms.Markup.Search
import ProseForms.Render.Document

/-!
# Sessions

A session is a form while somebody fills it in: a document, the answers so far,
and the scope of the ids.  The markup is never stored; it is rendered from the
answers whenever it is needed.
-/

namespace ProseForms

/-- A form while it is filled in. -/
structure Session where
  idPrefix : String
  document : Document
  answers : Answers

namespace Session

/-- A session with the answers of a document's defaults. -/
def start (idPrefix : String) (document : Document) : Session :=
  ⟨idPrefix, document, document.initialAnswers⟩

/-- A session with saved answers, or with the defaults when nothing was saved, after
some edits. -/
def resume (idPrefix : String) (document : Document) (saved : Option Answers)
    (edits : List Edit) : Session :=
  ⟨idPrefix, document, (saved.getD document.initialAnswers).applyAll edits⟩

/-- The markup of the form as it stands. -/
def forest (session : Session) : List Node :=
  session.document.render session.idPrefix session.answers

/-- The session after an edit. -/
def apply (session : Session) (edit : Edit) : Session :=
  { session with answers := session.answers.apply edit }

/-- The edit that an action on an element of the form raises. -/
def raised? (session : Session) (id : String) (notification : Notification) : Option Edit :=
  Node.dispatch? session.forest id notification

/-- The session after an action on an element of the form. -/
def act (session : Session) (id : String) (notification : Notification) : Session :=
  match session.raised? id notification with
  | some edit => session.apply edit
  | none => session

/-- The same answers with another document. -/
def withDocument (session : Session) (document : Document) : Session :=
  { session with document := document }

/-- The same document with other answers. -/
def withAnswers (session : Session) (answers : Answers) : Session :=
  { session with answers := answers }

/-- The same document with its defaults as answers. -/
def restart (session : Session) : Session :=
  start session.idPrefix session.document

/-- The log of opening a form and rendering it once: collecting the defaults unless
answers were saved, the edits, and the rendering. -/
def log (idPrefix : String) (document : Document) (saved : Option Answers)
    (edits : List Edit) : List Log.Line :=
  let opened := saved.getD document.initialAnswers
  let seeding := match saved with
    | some _ => []
    | none => document.seedNotices
  seeding.map SeedNotice.line ++
    (opened.applyAllNotices edits).map Answers.Notice.line ++
    (document.renderNotices idPrefix (opened.applyAll edits)).map RenderNotice.line

end Session

end ProseForms
