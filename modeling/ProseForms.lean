import ProseForms.Document.Equality
import ProseForms.Golden.Fixture
import ProseForms.Golden.LineDiff
import ProseForms.Sample.Document
import ProseForms.Session
import ProseForms.Proofs.Answers.History
import ProseForms.Proofs.Document.Shown
import ProseForms.Proofs.Document.Order
import ProseForms.Proofs.Render.Outline
import ProseForms.Proofs.Render.Filling
import ProseForms.Proofs.Render.Numbering
import ProseForms.Proofs.Render.Builders
import ProseForms.Proofs.Render.Ids
import ProseForms.Proofs.Render.IdNumbers
import ProseForms.Proofs.Render.Distinct
import ProseForms.Proofs.Render.Controls
import ProseForms.Proofs.Answers.Conforming
import ProseForms.Proofs.Answers.Seeding
import ProseForms.Proofs.Answers.Commuting
import ProseForms.Proofs.Render.Erasure
import ProseForms.Proofs.Render.Stability
import ProseForms.Proofs.Render.Containers
import ProseForms.Proofs.Render.AltText
import ProseForms.Proofs.Render.Notices
import ProseForms.Proofs.Render.Display
import ProseForms.Proofs.Render.Defaults
import ProseForms.Proofs.Render.AfterEdit
import ProseForms.Proofs.Render.Frame
import ProseForms.Proofs.Markup.Preorder
import ProseForms.Proofs.Text.Delimited
import ProseForms.Proofs.Text.Trimming
import ProseForms.Proofs.Markup.OpeningTag
import ProseForms.Proofs.Markup.Faithful
import ProseForms.Proofs.Golden.Accepted
import ProseForms.Proofs.Golden.Roundtrip
import ProseForms.Proofs.Golden.Mismatch
import ProseForms.Proofs.Sample.Bounds
import ProseForms.Proofs.Sample.Faults
import ProseForms.Proofs.Render.Routing
import ProseForms.Proofs.Render.Scopes
import ProseForms.Proofs.Session.Runs
import ProseForms.Proofs.Session.Choices
import ProseForms.Proofs.Json.Scanning
import ProseForms.Proofs.Json.Reading
import ProseForms.Proofs.Encoding.Restored
import ProseForms.Proofs.Encoding.Field
import ProseForms.Proofs.Encoding.Document
import ProseForms.Proofs.Encoding.Answers
import ProseForms.Proofs.Encoding.Saving
