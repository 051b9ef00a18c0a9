import ProseForms.Proofs.Answers.Conforming
import ProseForms.Proofs.Render.Controls
import ProseForms.Proofs.Render.Erasure
import ProseForms.Session

/-!
# Runs of a session

A run is any number of actions, each on the markup of the moment.  An action raises
at most one edit, and `exists_field_of_raised?` says that the edit is of the sort of
a field of the document.  Answers that conform to the document therefore go on
conforming, and what a rendering shows apart from the answers never changes.

* `act_cases` says what one action can do, and `conforms_act` what it preserves.
* `actAll_invariant` carries what every action preserves to whole runs, and
  `conforms_actAll` is the case of conforming answers.
* `actAll_start` collects what holds of every session that a form can reach.
-/

namespace ProseForms

/-! ## What conforming answers show -/

namespace Answers

variable {answers other : Answers} {doc : Document}

/-- A set that is held decides about every option of its group. -/
theorem shownBoxes_eq {key : String} {ticked : OptionSet}
    (hget : answers.get? key = some (.multiple ticked)) (flags : List Bool)
    (options : List String) :
    answers.shownBoxes key flags options =
      options.map fun option => (option, ticked.contains option) := by
  have hoptions : answers.options? key = some ticked := by
    unfold options?
    rw [hget]
    rfl
  unfold shownBoxes
  rw [hoptions]

/-- Conforming answers hold sets under the same labels of check boxes. -/
theorem Conforms.sameSets (h : answers.Conforms doc.fields) (hother : other.Conforms doc.fields)
    (hdoc : doc.ShapeConsistent) : answers.SameSets other doc.shownFields := by
  intro field hfield flags options hcontrol
  have hmem := Document.mem_fields_of_mem_shownFields hfield
  have hspec := FieldSpec.eq_of_control?_checkBoxes hcontrol
  obtain ⟨ticked, hget⟩ := h.exists_ticked hdoc hmem hspec
  obtain ⟨ticked', hget'⟩ := hother.exists_ticked hdoc hmem hspec
  unfold options?
  rw [hget, hget']
  rfl

end Answers

namespace Session

variable {session : Session} {id : String} {notification : Notification}

/-- The session after some actions, each an id and what is done there. -/
def actAll (session : Session) (steps : List (String × Notification)) : Session :=
  steps.foldl (fun session (id, notification) => session.act id notification) session

/-! ## One action -/

/-- An action applies the edit that it raises and changes nothing otherwise. -/
theorem act_cases (session : Session) (id : String) (notification : Notification) :
    session.act id notification = session ∨
      ∃ edit, session.raised? id notification = some edit ∧
        session.act id notification = session.apply edit := by
  unfold act
  split
  · rename_i edit hraised
    exact Or.inr ⟨edit, hraised, rfl⟩
  · exact Or.inl rfl

/-- An action keeps the document and the prefix of the ids. -/
theorem act_frame (session : Session) (id : String) (notification : Notification) :
    (session.act id notification).document = session.document ∧
      (session.act id notification).idPrefix = session.idPrefix := by
  rcases act_cases session id notification with h | ⟨edit, _, h⟩
  · rw [h]
    exact ⟨rfl, rfl⟩
  · rw [h]
    exact ⟨rfl, rfl⟩

/-- A group of check boxes raises ticks, and every other control raises texts. -/
theorem isTick_of_binds {control : Control} {key : String} {binding : Binding}
    {edit : Edit} (hbinds : control.Binds key binding)
    (hedit : binding.resolve? notification = some edit) :
    edit.isTick = control.isCheckBoxes := by
  cases control with
  | textBox kind default =>
      obtain rfl := hbinds
      cases notification <;> cases hedit
      rfl
  | dropDown options default =>
      obtain rfl := hbinds
      cases notification <;> cases hedit
      rfl
  | radioButtons default options =>
      obtain ⟨value, _, rfl⟩ := hbinds
      rcases notification with _ | _ | (_ | _) <;> cases hedit
      rfl
  | checkBoxes flags options =>
      obtain ⟨option, _, rfl⟩ := hbinds
      cases notification <;> cases hedit
      rfl

/-- An edit that an action raises is an edit of a field of the document, and of its
sort. -/
theorem exists_field_of_raised? {edit : Edit}
    (h : session.raised? id notification = some edit) :
    ∃ field ∈ session.document.fields,
      field.label = edit.key ∧ field.spec.isCheckBoxes = edit.isTick := by
  obtain ⟨field, hfield, control, binding, hcontrol, hbinds, hedit⟩ :=
    Document.exists_field_of_dispatch? h
  refine ⟨field, Document.mem_fields_of_mem_shownFields hfield, ?_, ?_⟩
  · rw [Binding.key_of_resolve? hedit, hbinds.key_eq]
  · rw [isTick_of_binds hbinds hedit]
    exact FieldSpec.isCheckBoxes_of_control? hcontrol

/-- An action keeps the answers conforming to the document. -/
theorem conforms_act (h : session.answers.Conforms session.document.fields) (id : String)
    (notification : Notification) :
    (session.act id notification).answers.Conforms session.document.fields := by
  rcases act_cases session id notification with hact | ⟨edit, hraised, hact⟩
  · rw [hact]
    exact h
  · obtain ⟨field, hfield, hkey, hshape⟩ := exists_field_of_raised? hraised
    rw [hact]
    exact h.apply hfield hkey hshape

/-! ## Whole runs -/

theorem actAll_frame (session : Session) (steps : List (String × Notification)) :
    (session.actAll steps).document = session.document ∧
      (session.actAll steps).idPrefix = session.idPrefix := by
  induction steps generalizing session with
  | nil => exact ⟨rfl, rfl⟩
  | cons step steps ih =>
      obtain ⟨hdocument, hprefix⟩ := act_frame session step.1 step.2
      obtain ⟨hrest, hrest'⟩ := ih (session.act step.1 step.2)
      exact ⟨hrest.trans hdocument, hrest'.trans hprefix⟩

/-- What every action preserves of the answers holds after any actions. -/
theorem actAll_invariant {P : Answers → Prop}
    (hact : ∀ current : Session, current.document = session.document → P current.answers →
      ∀ id notification, P (current.act id notification).answers)
    (h : P session.answers) (steps : List (String × Notification)) :
    P (session.actAll steps).answers := by
  induction steps generalizing session with
  | nil => exact h
  | cons step steps ih =>
      have hdocument := (act_frame session step.1 step.2).1
      refine ih (fun current hcurrent => ?_) (hact session rfl h step.1 step.2)
      exact hact current (hcurrent.trans hdocument)

/-- Answers that conform to the document conform to it after any actions. -/
theorem conforms_actAll (session : Session)
    (h : session.answers.Conforms session.document.fields)
    (steps : List (String × Notification)) :
    (session.actAll steps).answers.Conforms session.document.fields := by
  refine actAll_invariant (P := (·.Conforms session.document.fields))
    (fun current hcurrent hconforms id notification => ?_) h steps
  rw [← hcurrent] at hconforms ⊢
  exact conforms_act hconforms id notification

/-- In every session that a form can reach, every answer is under the label of a field
and is a set exactly under the labels of check boxes.  Check boxes that are written
out have a set, which decides what they show; no tick throws a text away; and only
what the controls show differs from the first rendering. -/
theorem actAll_start (idPrefix : String) {doc : Document} (hdoc : doc.ShapeConsistent)
    (steps : List (String × Notification)) :
    let session := (start idPrefix doc).actAll steps
    (∀ key answer, session.answers.get? key = some answer →
      (∃ field ∈ doc.fields, field.label = key) ∧
      (answer.isMultiple = true ↔
        ∃ field ∈ doc.fields, field.label = key ∧ field.spec.isCheckBoxes = true)) ∧
    (∀ field ∈ doc.fields, ∀ flags options,
      field.spec = .checkBoxes (.literal flags) (.literal options) →
        ∃ ticked, session.answers.get? field.label = some (.multiple ticked) ∧
          session.answers.shownBoxes field.label flags options =
            options.map fun option => (option, ticked.contains option)) ∧
    (∀ id notification edit, session.raised? id notification = some edit →
      session.answers.applyNotices edit = [.applied edit]) ∧
    Node.eraseShown session.forest = Node.eraseShown (start idPrefix doc).forest := by
  intro session
  obtain ⟨hdocument, hprefix⟩ := actAll_frame (start idPrefix doc) steps
  have hstart : doc.initialAnswers.Conforms doc.fields :=
    Answers.conforms_initialAnswers doc
  have hconforms : session.answers.Conforms doc.fields :=
    conforms_actAll (start idPrefix doc) hstart steps
  refine ⟨fun key answer hget => ⟨?_, hconforms.isMultiple_iff hdoc hget⟩,
    fun field hfield flags options hspec => ?_, fun id notification edit hraised => ?_, ?_⟩
  · obtain ⟨field, hfield, hlabel, _⟩ := hconforms.declared key answer hget
    exact ⟨field, hfield, hlabel⟩
  · obtain ⟨ticked, hget⟩ := hconforms.exists_ticked hdoc hfield hspec
    exact ⟨ticked, hget, Answers.shownBoxes_eq hget flags options⟩
  · obtain ⟨field, hfield, hkey, hshape⟩ := exists_field_of_raised? hraised
    rw [hdocument] at hfield
    exact hconforms.applyNotices_eq hdoc hfield hkey hshape
  · show Node.eraseShown (session.document.render session.idPrefix session.answers) = _
    rw [hdocument, hprefix]
    exact Renderer.eraseShown_render_eq idPrefix (hconforms.sameSets hstart hdoc)

/-- A form with a text box and a group of check boxes with one flag for two options,
after a text and a tick. -/
theorem actAll_start_textAndTick :
    let doc : Document := ⟨[.paragraph [.formField ⟨"Name", true, .textBox .plainText none⟩],
      .blockquote [.paragraph [.formField
        ⟨"Fruit", false, .checkBoxes (.literal [true]) (.literal ["Apple", "Pear"])⟩]]]⟩
    let session := (start "p" doc).actAll [("p-1", .input "Ann"), ("p-4", .checked true)]
    doc.ShapeConsistent ∧
      (∃ ticked, session.answers.get? "Fruit" = some (.multiple ticked)) ∧
      Node.eraseShown session.forest = Node.eraseShown (start "p" doc).forest := by
  intro doc session
  have hdoc : doc.ShapeConsistent := by decide
  obtain ⟨_, hboxes, _, herase⟩ :=
    actAll_start "p" hdoc [("p-1", .input "Ann"), ("p-4", .checked true)]
  obtain ⟨ticked, hget, _⟩ := hboxes
    ⟨"Fruit", false, .checkBoxes (.literal [true]) (.literal ["Apple", "Pear"])⟩
    (by decide) [true] ["Apple", "Pear"] rfl
  exact ⟨hdoc, ⟨ticked, hget⟩, herase⟩

end Session

end ProseForms
