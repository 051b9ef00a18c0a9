import ProseForms.Proofs.Render.Containers
import ProseForms.Proofs.Render.Distinct

/-!
# What a rendering reports

The notices of a rendering come from the fields alone, one field after the other, so they
can be told from the fields and from the numbers that the fields start at.

* `FormField.logLines` says which log lines there are about a field, given the id of its
  control or group.
* `noticesOf_eq_flatten` gives the notices of fields that are placed in order.
* `renderNotices_eq` says that a rendering reports these lines for the shown fields and
  nothing else, and that the ids in them are those in the rendered document.
-/

namespace ProseForms

/-- The log lines about a field whose control or group has an id. -/
def FormField.logLines (field : FormField) (answers : Answers) (id : String) :
    List Log.Line :=
  match field.spec.control? with
  | none =>
      [⟨.debug, "slamdown.render",
        "unsupported " ++ field.spec.typeName ++ " " ++ Text.quoted field.label⟩]
  | some control =>
      ⟨.trace, "slamdown.render", "field " ++ Text.quoted field.label ++ " -> " ++ id⟩ ::
        match control with
        | .checkBoxes flags options =>
            if flags.length ≠ options.length ∧ answers.options? field.label = none then
              [⟨.debug, "slamdown.render",
                Log.unpairedMessage field.label flags.length options.length⟩]
            else []
        | .textBox .. | .radioButtons .. | .dropDown .. => []

namespace Renderer

variable {N : Type}

/-- The notices of fields that are placed in order, each from the number that the fields
before it leave. -/
theorem noticesOf_eq_flatten (r : Renderer N) (supply : IdSupply) (fields : List FormField) :
    r.noticesOf supply fields =
      (fields.mapIdx fun i field =>
        r.fieldNotices (supply.skip (r.answers.widthOf (fields.take i))) field).flatten := by
  induction fields generalizing supply with
  | nil => rfl
  | cons field rest ih =>
      have hwidth : ∀ i, r.answers.widthOf ((field :: rest).take (i + 1)) =
          r.answers.width field + r.answers.widthOf (rest.take i) := fun _ => rfl
      rw [noticesOf, ih, List.mapIdx_cons, List.flatten_cons]
      simp only [hwidth, IdSupply.skip_skip, List.take_zero, Answers.widthOf_nil,
        IdSupply.skip_zero]

theorem map_line_fieldNotices (r : Renderer N) (supply : IdSupply) (field : FormField) :
    (r.fieldNotices supply field).map RenderNotice.line =
      field.logLines r.answers (IdSupply.idOf r.idPrefix supply.next) := by
  unfold fieldNotices FormField.logLines
  cases field.spec.control? with
  | none => rfl
  | some control =>
      cases control with
      | textBox kind default | radioButtons default options | dropDown options default => rfl
      | checkBoxes flags options =>
          have hboxes : (r.boxNotices field.label flags options).map RenderNotice.line =
              if flags.length ≠ options.length ∧ r.answers.options? field.label = none then
                [(RenderNotice.unpaired field.label flags.length options.length).line]
              else [] := by
            rw [boxNotices, apply_ite (List.map RenderNotice.line)]
            exact if_congr (by rw [Option.isNone_iff_eq_none, and_comm]) rfl rfl
          exact congrArg (_ :: ·) hboxes

end Renderer

/-- The id of a field that is not shown does not matter. -/
theorem FormField.logLines_congr {field : FormField} {answers : Answers} {id other : String}
    (h : field.spec.control?.isSome = true → id = other) :
    field.logLines answers id = field.logLines answers other := by
  cases hcontrol : field.spec.control? with
  | none => simp only [logLines, hcontrol]
  | some control => rw [h (by rw [hcontrol]; rfl)]

namespace Document

variable (idPrefix : String) (answers : Answers) (doc : Document)

/-- The ids in the log are the ids with the numbers at which the fields are laid out. -/
theorem logLines_idOf_eq (h : answers.widthOf doc.shownFields < UInt32.size) {i : Nat}
    {field : FormField} (hfield : doc.shownFields[i]? = some field) :
    let before := answers.widthOf (doc.shownFields.take i)
    field.logLines answers (IdSupply.idOf idPrefix (IdSupply.start.skip before).next) =
      field.logLines answers (idAt idPrefix (1 + before)) := by
  intro before
  refine FormField.logLines_congr fun hshown => ?_
  obtain ⟨control, hcontrol⟩ := Option.isSome_iff_exists.1 hshown
  have hpos := answers.width_pos hcontrol
  have hle := answers.widthOf_take_add_width_le hfield
  have hroom : IdSupply.start.next.toNat + before < UInt32.size := by
    show 1 + before < UInt32.size
    omega
  rw [idOf_eq_idAt, IdSupply.toNat_next_skip hroom]
  rfl

end Document

end ProseForms
