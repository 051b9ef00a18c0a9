import ProseForms.Proofs.Render.Defaults
import ProseForms.Proofs.Session.Runs

/-!
# The choices of radio groups

A radio group starts with its default checked, and its buttons raise their own values.
When no other field has its label, nothing else is ever stored under it, and so there is a
choice at every moment.

* `Answers.HoldsChoices` is the invariant: under the label of every radio group stands one
  of its values.
* `holdsChoices_act` and `holdsChoices_actAll` say that actions keep it.
* `radios_actAll_start` reads off it what the radio buttons of a form show.
-/

namespace ProseForms

/-! ## What radio buttons show -/

/-- The value of a radio button, and whether it is checked. -/
def Element.radio? (head : Element) : Option (String × Bool) :=
  if head.tag = .input ∧ head.attributes.inputType = some "radio" then
    head.attributes.value.map fun value => (value, head.attributes.checked)
  else none

/-- What the radio buttons in a node show, in document order. -/
def Node.radios (node : Node) : List (String × Bool) :=
  node.heads.filterMap Element.radio?

namespace Control

/-- The values of the radio buttons of a control. -/
def radioValues : Control → List String
  | .radioButtons default options => default :: options
  | .textBox .. | .checkBoxes .. | .dropDown .. => []

/-- What the radio buttons of a control show. -/
def radios (answers : Answers) (key : String) : Control → List (String × Bool)
  | .radioButtons default options => answers.shownRadios key default options
  | .textBox .. | .checkBoxes .. | .dropDown .. => []

theorem map_fst_radios (answers : Answers) (key : String) (control : Control) :
    (control.radios answers key).map Prod.fst = control.radioValues := by
  cases control with
  | radioButtons default options =>
      simp [radios, radioValues, Answers.shownRadios, Function.comp_def]
  | textBox kind default | checkBoxes flags options | dropDown options default => rfl

end Control

namespace Renderer

variable {idPrefix : String} {answers : Answers}

theorem radios_controlNode (id key : String) (supply : IdSupply) (control : Control) :
    ((nodes idPrefix answers).controlNode id key supply control).radios =
      control.radios answers key := by
  cases control with
  | textBox kind default => cases kind <;> rfl
  | radioButtons default options =>
      exact (filterMap_heads_groupNode (g := some) rfl (fun _ _ => rfl) supply _).trans
        List.filterMap_some
  | checkBoxes flags options =>
      exact (filterMap_heads_groupNode (g := fun _ => none) rfl (fun _ _ => rfl) supply _).trans
        (List.filterMap_eq_nil_iff.2 fun _ _ => rfl)
  | dropDown options default =>
      exact filterMap_heads_dropDown_select (fun _ => rfl) id key options default

theorem seesControls_radios : SeesControls Element.radio? Control.radios where
  markup _ hhead := if_neg fun h => hhead.tag_ne rfl h.1
  span := rfl
  label _ := rfl
  control := radios_controlNode

end Renderer

/-! ## One choice -/

/-- Whether of some radio buttons at least one is checked, and no two with different
values. -/
def ChecksOneValue (radios : List (String × Bool)) : Prop :=
  ∃ chosen, (chosen, true) ∈ radios ∧ ∀ radio ∈ radios, radio.2 = true → radio.1 = chosen

theorem checksOneValue_map {values : List String} {chosen : String} (h : chosen ∈ values) :
    ChecksOneValue (values.map fun value => (value, decide (value = chosen))) := by
  refine ⟨chosen, List.mem_map.2 ⟨chosen, h, by simp⟩, fun radio hradio hchecked => ?_⟩
  obtain ⟨value, _, rfl⟩ := List.mem_map.1 hradio
  exact of_decide_eq_true hchecked

/-- Of distinct values a single one is checked. -/
theorem countP_map_eq_one {values : List String} {chosen : String} (h : chosen ∈ values)
    (hnodup : values.Nodup) :
    (values.map fun value => (value, decide (value = chosen))).countP Prod.snd = 1 := by
  rw [List.countP_map]
  exact List.count_eq_one_of_mem hnodup h

/-! ## The invariant -/

namespace Answers

variable {answers : Answers} {fields : List FormField}

/-- Under the label of every radio group stands one of its values. -/
def HoldsChoices (answers : Answers) (fields : List FormField) : Prop :=
  ∀ field ∈ fields, ∀ default options,
    field.spec.control? = some (.radioButtons default options) →
      ∃ choice ∈ default :: options, answers.text? field.label = some choice

theorem holdsChoices_initialAnswers {doc : Document}
    (hlabels : (doc.fields.map FormField.label).Nodup) :
    doc.initialAnswers.HoldsChoices doc.fields := by
  intro field hfield default options hcontrol
  have hanswer : field.spec.initialAnswer? = some (.single .plainText default) := by
    unfold FieldSpec.control? at hcontrol
    split at hcontrol <;> cases hcontrol
    rename_i hspec
    rw [hspec]
    rfl
  have hget := Document.get?_initialAnswers_label hlabels hfield
  refine ⟨default, List.mem_cons_self, ?_⟩
  rw [text?, hget, hanswer]
  rfl

/-- An edit that a control raises keeps the choices, if no two fields share a label. -/
theorem HoldsChoices.apply {field : FormField} {control : Control}
    {notification : Notification} {edit : Edit} (h : answers.HoldsChoices fields)
    (hlabels : (fields.map FormField.label).Nodup) (hfield : field ∈ fields)
    (hcontrol : field.spec.control? = some control) (hkey : edit.key = field.label)
    (hraises : control.Raises field.label notification edit) :
    (answers.apply edit).HoldsChoices fields := by
  intro other hother default options hradio
  by_cases hlabel : field.label = other.label
  · -- The edit is one of the group itself, so it carries one of its values.
    obtain rfl : field = other := List.inj_on_of_nodup_map hlabels hfield hother hlabel
    obtain rfl : control = .radioButtons default options :=
      Option.some.inj (hcontrol.symm.trans hradio)
    obtain ⟨_, value, hvalue, rfl⟩ := hraises
    exact ⟨value, hvalue, text?_apply_text answers _ _ value⟩
  · have hget : (answers.apply edit).get? other.label = answers.get? other.label :=
      get?_apply_of_ne (hkey ▸ hlabel)
    obtain ⟨choice, hchoice, htext⟩ := h other hother default options hradio
    refine ⟨choice, hchoice, ?_⟩
    rw [text?, hget]
    exact htext

end Answers

/-! ## Along a session -/

namespace Session

variable {session : Session}

/-- An action keeps the choices. -/
theorem holdsChoices_act (hlabels : (session.document.fields.map FormField.label).Nodup)
    (h : session.answers.HoldsChoices session.document.fields) (id : String)
    (notification : Notification) :
    (session.act id notification).answers.HoldsChoices session.document.fields := by
  rcases act_cases session id notification with hact | ⟨edit, hraised, hact⟩
  · rw [hact]
    exact h
  · obtain ⟨field, hfield, control, binding, hcontrol, hbinds, hedit⟩ :=
      Document.exists_field_of_dispatch? hraised
    have hkey : edit.key = field.label := by
      rw [Binding.key_of_resolve? hedit, hbinds.key_eq]
    rw [hact]
    exact h.apply hlabels (Document.mem_fields_of_mem_shownFields hfield) hcontrol hkey
      (hbinds.raises hedit)

/-- Choices are kept by any actions. -/
theorem holdsChoices_actAll (hlabels : (session.document.fields.map FormField.label).Nodup)
    (h : session.answers.HoldsChoices session.document.fields)
    (steps : List (String × Notification)) :
    (session.actAll steps).answers.HoldsChoices session.document.fields := by
  refine actAll_invariant (P := (·.HoldsChoices session.document.fields))
    (fun current hcurrent hholds id notification => ?_) h steps
  rw [← hcurrent] at hholds hlabels ⊢
  exact holdsChoices_act hlabels hholds id notification

/-- In every session that a form with distinct labels can reach, the radio buttons are those
of its radio groups, with the default and the options of a group as values.  Every group
has a checked button, all its checked buttons have one value, and a single one is checked
if the values are distinct. -/
theorem radios_actAll_start (idPrefix : String) {doc : Document}
    (hlabels : (doc.fields.map FormField.label).Nodup)
    (steps : List (String × Notification)) :
    let session := (start idPrefix doc).actAll steps
    let groups := (Node.containersIn session.forest).map Node.radios
    ((Node.headsIn session.forest).filterMap Element.radio?).Perm groups.flatten ∧
    groups.map (·.map Prod.fst) = doc.controls.map (fun (_, control) => control.radioValues) ∧
    ∀ group ∈ groups, group ≠ [] →
      ChecksOneValue group ∧ ((group.map Prod.fst).Nodup → group.countP Prod.snd = 1) := by
  intro session groups
  have hradios := Renderer.seesControls_radios
  have hdocument : session.document = doc := (actAll_frame (start idPrefix doc) steps).1
  have hstart : (start idPrefix doc).answers.HoldsChoices (start idPrefix doc).document.fields :=
    Answers.holdsChoices_initialAnswers hlabels
  have hholds : session.answers.HoldsChoices doc.fields :=
    holdsChoices_actAll hlabels hstart steps
  have hgroups : groups =
      doc.controls.map fun (key, control) => control.radios session.answers key := by
    rw [← hdocument]
    exact hradios.map_containersIn session.idPrefix session.answers session.document
  refine ⟨hradios.headsIn_perm session.idPrefix session.answers session.document, ?_, ?_⟩
  · rw [hgroups, List.map_map]
    exact List.map_congr_left fun (key, control) _ => control.map_fst_radios _ key
  · intro group hgroup hne
    rw [hgroups] at hgroup
    obtain ⟨⟨key, control⟩, hmem, hradios⟩ := List.mem_map.1 hgroup
    replace hradios : control.radios session.answers key = group := hradios
    have hvalues : group.map Prod.fst = control.radioValues := by
      rw [← hradios, Control.map_fst_radios]
    cases control with
    | textBox kind default | checkBoxes flags options | dropDown options default =>
        exact absurd hradios.symm hne
    | radioButtons default options =>
        obtain ⟨field, hfield, hlabel⟩ := List.mem_filterMap.1 hmem
        obtain ⟨control, hcontrol, heq⟩ := Option.map_eq_some_iff.1 hlabel
        obtain ⟨rfl, rfl⟩ := Prod.mk.inj heq
        obtain ⟨choice, hchoice, htext⟩ :=
          hholds field (Document.mem_fields_of_mem_shownFields hfield) default options hcontrol
        have hshown : group =
            (default :: options).map fun value => (value, decide (value = choice)) := by
          rw [← hradios]
          simp [Control.radios, Answers.shownRadios, htext]
        rw [hvalues, hshown]
        exact ⟨checksOneValue_map hchoice, countP_map_eq_one hchoice⟩

/-- A radio group in a quote after a choice, after its button is told to be unchecked, and
after a text elsewhere; another group is hidden in an image. -/
theorem radios_actAll_start_secondChoice :
    let doc : Document := ⟨[.blockquote [.paragraph [.formField
        ⟨"Size", true, .radioButtons (.literal "S") (.literal ["M", "L"])⟩]],
      .paragraph [.image [.formField
        ⟨"Color", false, .radioButtons (.literal "Red") (.literal ["Blue"])⟩] "u",
        .formField ⟨"Name", false, .textBox .plainText none⟩]]⟩
    let steps : List (String × Notification) :=
      [("p-3", .checked true), ("p-3", .checked false), ("p-5", .input "L")]
    let session := (start "p" doc).actAll steps
    let groups := (Node.containersIn session.forest).map Node.radios
    (doc.fields.map FormField.label).Nodup ∧
      groups = [[("S", false), ("M", true), ("L", false)], []] ∧
      ∀ group ∈ groups, group ≠ [] →
        ChecksOneValue group ∧ ((group.map Prod.fst).Nodup → group.countP Prod.snd = 1) := by
  intro doc steps session groups
  have hlabels : (doc.fields.map FormField.label).Nodup := by decide
  exact ⟨hlabels, by decide, (radios_actAll_start "p" hlabels steps).2.2⟩

end Session

end ProseForms
