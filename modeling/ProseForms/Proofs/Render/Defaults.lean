import Mathlib.Data.List.Nodup
import ProseForms.Proofs.Answers.Seeding
import ProseForms.Proofs.Render.Display

/-!
# Defaults as answers

A form that is opened for the first time holds the defaults of its document as answers.  A
control without an answer shows its default by itself.  Both ways lead to the same
rendering, as long as no two fields share a label and the boxes of every group pair up with
its flags.

* `Document.get?_initialAnswers_label` says that under distinct labels every field starts
  with its own default.
* `Control.shown_initialAnswer` says that a control which holds its default shows what it
  shows without an answer.
* `Document.render_initialAnswers` puts the two together.
-/

namespace ProseForms

/-! ## Every field has its own default -/

/-- Under distinct labels the only default for a label is that of its field. -/
theorem FormField.filterMap_defaultFor?_label {fields : List FormField}
    (h : (fields.map label).Nodup) {field : FormField} (hfield : field ∈ fields) :
    fields.filterMap (defaultFor? field.label) = field.spec.initialAnswer?.toList := by
  have hother : ∀ {other : FormField}, other.label ≠ field.label →
      other.defaultFor? field.label = none := fun hne =>
    defaultFor?_eq_none_iff.2 fun heq => absurd heq hne
  induction fields with
  | nil => cases hfield
  | cons first rest ih =>
      obtain ⟨hfirst, hrest⟩ := List.nodup_cons.1 h
      rcases List.mem_cons.1 hfield with rfl | hmem
      · have hnone : rest.filterMap (defaultFor? field.label) = [] := by
          refine List.filterMap_eq_nil_iff.2 fun other hmem => hother fun heq => ?_
          exact hfirst (heq ▸ List.mem_map_of_mem hmem)
        rw [List.filterMap_cons, hnone, defaultFor?_label]
        cases field.spec.initialAnswer? <;> rfl
      · have hne : first.label ≠ field.label := fun heq =>
          hfirst (heq ▸ List.mem_map_of_mem hmem)
        rw [List.filterMap_cons_none (hother hne), ih hrest hmem]

/-- Under distinct labels every field starts with its own default. -/
theorem Document.get?_initialAnswers_label {doc : Document}
    (h : (doc.fields.map FormField.label).Nodup) {field : FormField}
    (hfield : field ∈ doc.fields) :
    doc.initialAnswers.get? field.label = field.spec.initialAnswer? := by
  rw [get?_initialAnswers, FormField.filterMap_defaultFor?_label h hfield]
  cases field.spec.initialAnswer? <;> rfl

/-! ## Boxes that start ticked -/

theorem contains_initiallyTicked (flags : List Bool) (options : List String)
    (option : String) :
    (initiallyTicked flags options).contains option = true ↔
      (option, true) ∈ flaggedOptions flags options := by
  unfold initiallyTicked
  rw [Std.ExtTreeSet.contains_ofList, List.contains_iff_mem, List.mem_filterMap]
  constructor
  · rintro ⟨⟨box, ticked⟩, hmem, hbox⟩
    cases ticked with
    | false => cases hbox
    | true => exact Option.some.inj hbox ▸ hmem
  · intro hmem
    exact ⟨(option, true), hmem, rfl⟩

/-- Distinct options, each with a flag, are ticked at the start as their flags say. -/
theorem map_contains_initiallyTicked {flags : List Bool} {options : List String}
    (hnodup : options.Nodup) (hlength : options.length ≤ flags.length) :
    (options.map fun option => (option, (initiallyTicked flags options).contains option)) =
      flaggedOptions flags options := by
  have hfst : (flaggedOptions flags options).map Prod.fst = options := List.map_fst_zip hlength
  have hbox : ∀ box ∈ flaggedOptions flags options,
      (box.1, (initiallyTicked flags options).contains box.1) = box := by
    rintro ⟨option, ticked⟩ hmem
    refine Prod.ext rfl (Bool.eq_iff_iff.2 ?_)
    rw [contains_initiallyTicked]
    constructor
    · -- The flag of an option is unique, as the options are.
      intro hticked
      have heq := List.inj_on_of_nodup_map (hfst.symm ▸ hnodup) hmem hticked rfl
      exact congrArg Prod.snd heq
    · rintro rfl
      exact hmem
  calc
    _ = ((flaggedOptions flags options).map Prod.fst).map fun option =>
          (option, (initiallyTicked flags options).contains option) := by rw [hfst]
    _ = (flaggedOptions flags options).map id := by
          rw [List.map_map]
          exact List.map_congr_left hbox
    _ = _ := List.map_id _

/-! ## Controls that hold their defaults -/

/-- A control that holds its default shows what it shows without an answer, if its boxes
are distinct and have a flag each. -/
theorem Control.shown_initialAnswer {answers : Answers} {key : String} {spec : FieldSpec}
    {control : Control} (hcontrol : spec.control? = some control)
    (hget : answers.get? key = spec.initialAnswer?)
    (hboxes : ∀ flags options, spec = .checkBoxes (.literal flags) (.literal options) →
      options.Nodup ∧ options.length ≤ flags.length) :
    control.shown answers key = control.shown .empty key := by
  have htext : answers.text? key = spec.initialAnswer?.bind Answer.text? :=
    congrArg (·.bind Answer.text?) hget
  have hoptions : answers.options? key = spec.initialAnswer?.bind Answer.options? :=
    congrArg (·.bind Answer.options?) hget
  have hempty : Answers.empty.text? key = none ∧ Answers.empty.options? key = none := by
    simp [Answers.text?, Answers.options?]
  -- Once by the case of `control?`, which leaves the literal parts of the field.
  unfold FieldSpec.control? at hcontrol
  split at hcontrol <;> cases hcontrol
  · rename_i kind default
    simp only [shown, Answers.shownText, htext, hempty]
    rcases default with _ | _ | _ <;> rfl
  · simp only [shown, Answers.shownRadios, htext, hempty]
    rfl
  · rename_i flags options
    obtain ⟨hnodup, hlength⟩ := hboxes flags options rfl
    simp only [shown, Answers.shownBoxes, hoptions, hempty]
    exact map_contains_initiallyTicked hnodup hlength
  · rename_i options default
    rcases default with _ | _ | _
    · rfl
    · simp only [shown, Answers.shownOptions, htext, hempty]
      rfl
    · rfl

/-! ## The first rendering -/

namespace Document

/-- The defaults as answers give the rendering that the document has without answers, ids
included. -/
theorem render_initialAnswers (idPrefix : String) (doc : Document)
    (hlabels : (doc.fields.map FormField.label).Nodup)
    (hboxes : ∀ field ∈ doc.fields, ∀ flags options,
      field.spec = .checkBoxes (.literal flags) (.literal options) →
        options.Nodup ∧ options.length ≤ flags.length) :
    doc.render idPrefix doc.initialAnswers = doc.render idPrefix .empty := by
  refine Renderer.render_eq_of_shown idPrefix fun field hshown control hcontrol => ?_
  have hfield : field ∈ doc.fields := mem_fields_of_mem_shownFields hshown
  exact Control.shown_initialAnswer hcontrol (get?_initialAnswers_label hlabels hfield)
    (hboxes field hfield)

/-- A group of boxes with a flag too many in a list, after a drop down in the body of an
image and before a radio group that cannot be shown and a text box without a default. -/
theorem render_initialAnswers_spareFlag :
    let size : FormField := ⟨"Size", false, .dropDown (.literal ["S"]) (some (.literal "S"))⟩
    let fruit : FormField :=
      ⟨"Fruit", true, .checkBoxes (.literal [true, false, true]) (.literal ["Apple", "Pear"])⟩
    let color : FormField := ⟨"Color", false, .radioButtons (.literal "Red") (.code "c()")⟩
    let day : FormField := ⟨"Day", false, .textBox .date (some (.code "today()"))⟩
    let doc : Document := ⟨[.paragraph [.image [.formField size] "u"],
      .list .bullet [[.paragraph [.emph [.formField fruit], .formField color]],
        [.header 2 [.formField day]]]]⟩
    (doc.fields.map FormField.label).Nodup ∧
      (∀ field ∈ doc.fields, ∀ flags options,
        field.spec = .checkBoxes (.literal flags) (.literal options) →
          options.Nodup ∧ options.length ≤ flags.length) ∧
      doc.initialAnswers ≠ .empty ∧
      doc.render "p" doc.initialAnswers = doc.render "p" .empty := by
  intro size fruit color day doc
  have hlabels : (doc.fields.map FormField.label).Nodup := by decide
  have hboxes : ∀ field ∈ doc.fields, ∀ flags options,
      field.spec = .checkBoxes (.literal flags) (.literal options) →
        options.Nodup ∧ options.length ≤ flags.length := by
    have hfields : doc.fields = [size, fruit, color, day] := rfl
    rw [hfields]
    intro field hfield flags options hspec
    simp only [List.mem_cons, List.not_mem_nil, or_false] at hfield
    rcases hfield with rfl | rfl | rfl | rfl <;> cases hspec
    decide
  exact ⟨hlabels, hboxes, by decide, render_initialAnswers "p" doc hlabels hboxes⟩

end Document

end ProseForms
