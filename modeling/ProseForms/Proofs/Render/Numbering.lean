import Mathlib.Algebra.GroupWithZero.Nat
import ProseForms.Proofs.Render.Filling

/-!
# Where the numbers of a rendering go

A rendering takes its ids from a supply that it passes along.  This module says
in closed form which numbers every field gets: a field takes as many as its
`Answers.width`, and the numbers before it are the widths of the fields before
it.

There are three groups.

* Supplies.  `IdSupply.skip` takes several numbers at once.
* One field.  `run_group` and `run_field` give the node of a field as a function
  of the supply that it starts from.
* All fields.  `run_placeAll` and `run_blocks` say that rendering fills the
  outline of a document with the nodes of its fields, each at its own number.
-/

namespace ProseForms

/-! ## Supplies -/

namespace IdSupply

/-- The supply after some of its numbers are taken. -/
def skip (supply : IdSupply) (count : Nat) : IdSupply :=
  ⟨supply.next + UInt32.ofNat count⟩

@[simp] theorem skip_zero (supply : IdSupply) : supply.skip 0 = supply := by
  simp [skip]

@[simp] theorem skip_skip (supply : IdSupply) (first second : Nat) :
    (supply.skip first).skip second = supply.skip (first + second) := by
  simp [skip, UInt32.ofNat_add, UInt32.add_assoc]

theorem advance_eq_skip (supply : IdSupply) : supply.advance = supply.skip 1 := rfl

/-- Numbers do not wrap around as long as they stay below `2 ^ 32`. -/
theorem toNat_next_skip {supply : IdSupply} {count : Nat}
    (h : supply.next.toNat + count < UInt32.size) :
    (supply.skip count).next.toNat = supply.next.toNat + count := by
  have hcount : count < UInt32.size := by omega
  rw [skip, UInt32.toNat_add, UInt32.toNat_ofNat_of_lt' hcount]
  exact Nat.mod_eq_of_lt h

end IdSupply

/-! ## How many ids a field takes -/

namespace Answers

/-- The number of ids that a field takes: one for its control or group, and one
for each choice that is shown.  A radio group shows its default besides its
options. -/
def width (answers : Answers) (field : FormField) : Nat :=
  match field.spec.control? with
  | none => 0
  | some (.textBox ..) | some (.dropDown ..) => 1
  | some (.radioButtons _ options) => options.length + 2
  | some (.checkBoxes flags options) =>
      1 + if (answers.options? field.label).isSome then options.length
        else min flags.length options.length

/-- The number of ids that some fields take together. -/
def widthOf (answers : Answers) (fields : List FormField) : Nat :=
  (fields.map answers.width).sum

@[simp] theorem widthOf_nil (answers : Answers) : answers.widthOf [] = 0 := rfl

@[simp] theorem widthOf_append (answers : Answers) (first rest : List FormField) :
    answers.widthOf (first ++ rest) = answers.widthOf first + answers.widthOf rest := by
  simp [widthOf]

/-- Where a field stands depends only on how many ids the fields before it take. -/
theorem widthOf_take_congr {answers other : Answers} {fields : List FormField}
    (h : ∀ field ∈ fields, answers.width field = other.width field) (i : Nat) :
    answers.widthOf (fields.take i) = other.widthOf (fields.take i) :=
  congrArg List.sum
    (List.map_congr_left fun field hfield => h field (List.mem_of_mem_take hfield))

theorem width_pos (answers : Answers) {field : FormField} {control : Control}
    (h : field.spec.control? = some control) : 0 < answers.width field := by
  unfold width
  rw [h]
  cases control <;> simp only <;> omega

/-- A field among others takes no more ids than the fields before it leave. -/
theorem widthOf_take_add_width_le (answers : Answers) {fields : List FormField} {i : Nat}
    {field : FormField} (h : fields[i]? = some field) :
    answers.widthOf (fields.take i) + answers.width field ≤ answers.widthOf fields := by
  obtain ⟨hi, rfl⟩ := List.getElem?_eq_some_iff.1 h
  have hsplit : fields = fields.take i ++ [fields[i]] ++ fields.drop (i + 1) := by simp
  have hwidth := congrArg answers.widthOf hsplit
  rw [widthOf_append, widthOf_append] at hwidth
  have hone : answers.widthOf [fields[i]] = answers.width fields[i] := Nat.add_zero _
  omega

theorem length_shownBoxes (answers : Answers) (key : String) (flags : List Bool)
    (options : List String) :
    (answers.shownBoxes key flags options).length =
      if (answers.options? key).isSome then options.length
        else min flags.length options.length := by
  unfold shownBoxes
  cases answers.options? key with
  | some ticked => simp
  | none => simp [flaggedOptions, Nat.min_comm]

/-- The boxes of a group are for its first options. -/
theorem map_fst_shownBoxes (answers : Answers) (key : String) (flags : List Bool)
    (options : List String) :
    (answers.shownBoxes key flags options).map Prod.fst =
      options.take (answers.shownBoxes key flags options).length := by
  unfold shownBoxes
  cases answers.options? key with
  | some ticked => simp [Function.comp_def]
  | none =>
      simp only [flaggedOptions, List.length_zip]
      rw [List.zip_eq_zip_take_min, List.map_fst_zip (by simp)]

end Answers

namespace Pass

/-- Passes that take one number each, run one after the other. -/
theorem run_each {α β : Type} {f : α → Pass β} {g : IdSupply → α → β}
    (h : ∀ item supply, (f item).run supply = ⟨g supply item, supply.advance, []⟩)
    (items : List α) (supply : IdSupply) :
    (each f items).run supply =
      ⟨items.mapIdx fun j item => g (supply.skip j) item, supply.skip items.length, []⟩ := by
  induction items generalizing supply with
  | nil => simp [each]
  | cons item rest ih =>
      simp [each, h, ih, IdSupply.advance_eq_skip, List.mapIdx_cons, Nat.add_comm]

end Pass

namespace Renderer

variable {N : Type}

/-! ## One field -/

/-- A radio button or check box with an id, and its label. -/
def choiceItem (r : Renderer N) (group inputType : String) (bind : String → Binding)
    (id : String) (shown : String × Bool) : N :=
  r.element ⟨.li, {}, none⟩ [
    r.element {
      tag := .input
      attributes := {
        id := some id, name := some group, inputType := some inputType,
        value := some shown.1, checked := shown.2 }
      binding := some (bind shown.1) } [],
    r.element ⟨.label, { forId := some id }, none⟩ [r.text shown.1]]

/-- A group of radio buttons or check boxes that takes its ids from a supply. -/
def groupNode (r : Renderer N) (group inputType : String) (bind : String → Binding)
    (supply : IdSupply) (shown : List (String × Bool)) : N :=
  r.element ⟨.ul, {}, none⟩ (shown.mapIdx fun j choice =>
    r.choiceItem group inputType bind (IdSupply.idOf r.idPrefix (supply.skip j).next) choice)

theorem run_group (r : Renderer N) (group inputType : String) (bind : String → Binding)
    (shown : List (String × Bool)) (supply : IdSupply) :
    (r.group group inputType bind shown).run supply =
      ⟨r.groupNode group inputType bind supply shown, supply.skip shown.length, []⟩ := by
  have heach := Pass.run_each (f := r.choice group inputType bind)
    (g := fun supply choice =>
      r.choiceItem group inputType bind (IdSupply.idOf r.idPrefix supply.next) choice)
    (fun _ _ => rfl) shown supply
  simp [Renderer.group, heach, groupNode]

/-- The control of a field that takes the ids of its choices from a supply. -/
def controlNode (r : Renderer N) (id key : String) (supply : IdSupply) : Control → N
  | .textBox kind default => r.textBox id key kind default
  | .radioButtons default options =>
      r.groupNode id "radio" (.choose key) supply (r.answers.shownRadios key default options)
  | .checkBoxes flags options =>
      r.groupNode id "checkbox" (.toggle key) supply (r.answers.shownBoxes key flags options)
  | .dropDown options default => r.dropDown id key options default

/-- A field that takes its ids from a supply. -/
def fieldNode (r : Renderer N) (supply : IdSupply) (field : FormField) : N :=
  match field.spec.control? with
  | none => r.text unsupportedText
  | some control =>
      let id := IdSupply.idOf r.idPrefix supply.next
      r.element ⟨.span, {}, none⟩
        [r.fieldLabel id field control, r.controlNode id field.label supply.advance control]

/-- What is reported about a field that takes its ids from a supply. -/
def fieldNotices (r : Renderer N) (supply : IdSupply) (field : FormField) :
    List RenderNotice :=
  match field.spec.control? with
  | none => [.unsupported field.spec.typeName field.label]
  | some control =>
      .placed field.label (IdSupply.idOf r.idPrefix supply.next) ::
        match control with
        | .checkBoxes flags options => r.boxNotices field.label flags options
        | .textBox .. | .radioButtons .. | .dropDown .. => []

/-- A field as a function of the supply that it starts from. -/
theorem run_field (r : Renderer N) (field : FormField) (supply : IdSupply) :
    (r.field field).run supply =
      ⟨r.fieldNode supply field, supply.skip (r.answers.width field),
        r.fieldNotices supply field⟩ := by
  unfold Renderer.field fieldNode fieldNotices Answers.width
  cases field.spec.control? with
  | none => simp
  | some control =>
      cases control with
      | textBox kind default => simp [control, controlNode, IdSupply.advance_eq_skip]
      | dropDown options default => simp [control, controlNode, IdSupply.advance_eq_skip]
      | radioButtons default options =>
          have hwidth : 1 + (options.length + 1) = options.length + 2 := by omega
          simp [control, controlNode, run_group, IdSupply.advance_eq_skip,
            Answers.shownRadios, hwidth]
      | checkBoxes flags options =>
          simp [control, controlNode, run_group, IdSupply.advance_eq_skip,
            Answers.length_shownBoxes]

/-! ## All fields -/

/-- The node of the field at some position among the fields that are placed in
order from a supply. -/
def standIn (r : Renderer N) (supply : IdSupply) (fields : List FormField) (i : Nat)
    (field : FormField) : N :=
  r.fieldNode (supply.skip (r.answers.widthOf (fields.take i))) field

/-- What is reported about fields that are placed in order from a supply. -/
def noticesOf (r : Renderer N) (supply : IdSupply) : List FormField → List RenderNotice
  | [] => []
  | field :: rest =>
      r.fieldNotices supply field ++ r.noticesOf (supply.skip (r.answers.width field)) rest

theorem standIn_append_left (r : Renderer N) (supply : IdSupply)
    {first rest : List FormField} {i : Nat} (h : i ≤ first.length) (field : FormField) :
    r.standIn supply (first ++ rest) i field = r.standIn supply first i field := by
  rw [standIn, standIn, List.take_append_of_le_length h]

theorem standIn_append_right (r : Renderer N) (supply : IdSupply)
    (first rest : List FormField) (i : Nat) (field : FormField) :
    r.standIn supply (first ++ rest) (first.length + i) field =
      r.standIn (supply.skip (r.answers.widthOf first)) rest i field := by
  simp [standIn, List.take_length_add_append]

theorem noticesOf_append (r : Renderer N) (supply : IdSupply)
    (first rest : List FormField) :
    r.noticesOf supply (first ++ rest) =
      r.noticesOf supply first ++ r.noticesOf (supply.skip (r.answers.widthOf first)) rest := by
  induction first generalizing supply with
  | nil => simp [noticesOf]
  | cons field first ih => simp [noticesOf, ih, Answers.widthOf]

mutual

theorem run_place (r : Renderer N) :
    ∀ (outline : Outline) (supply : IdSupply),
      (r.place outline).run supply =
        ⟨outline.fill r.builder (r.standIn supply outline.fields) 0,
          supply.skip (r.answers.widthOf outline.fields),
          r.noticesOf supply outline.fields⟩
  | .text _, _ => by simp [place, Outline.fill, Outline.fields, noticesOf, Renderer.text]
  | .element head children, supply => by
      simp [place, run_placeAll r children supply, Outline.fill, Outline.fields,
        Renderer.element]
  | .slot field, supply => by
      simp [place, run_field, Outline.fill, Outline.fields, noticesOf, standIn,
        Answers.widthOf]
termination_by structural outline => outline

/-- Placing the fields of some outlines fills them with the nodes of the fields,
each at its own number. -/
theorem run_placeAll (r : Renderer N) :
    ∀ (outlines : List Outline) (supply : IdSupply),
      (r.placeAll outlines).run supply =
        ⟨Outline.fillAll r.builder (r.standIn supply (Outline.fieldsIn outlines)) 0 outlines,
          supply.skip (r.answers.widthOf (Outline.fieldsIn outlines)),
          r.noticesOf supply (Outline.fieldsIn outlines)⟩
  | [], _ => by simp [placeAll, Outline.fillAll, Outline.fieldsIn, noticesOf]
  | outline :: rest, supply => by
      -- Both parts are placed as parts of the whole list: the first from its own start, the
      -- rest at the positions and numbers after it.
      have hfirst : outline.fill r.builder (r.standIn supply outline.fields) 0 =
          outline.fill r.builder
            (r.standIn supply (outline.fields ++ Outline.fieldsIn rest)) 0 := by
        refine Outline.fill_congr fun k field hk => ?_
        have hlt : k < outline.fields.length := (List.getElem?_eq_some_iff.1 hk).1
        rw [Nat.zero_add]
        exact (r.standIn_append_left supply (Nat.le_of_lt hlt) field).symm
      have hrest : Outline.fillAll r.builder
            (r.standIn (supply.skip (r.answers.widthOf outline.fields))
              (Outline.fieldsIn rest)) 0 rest =
          Outline.fillAll r.builder
            (r.standIn supply (outline.fields ++ Outline.fieldsIn rest))
              outline.fields.length rest := by
        refine Outline.fillAll_congr fun k field _ => ?_
        rw [Nat.zero_add]
        exact (r.standIn_append_right supply outline.fields _ k field).symm
      simp only [placeAll, Pass.run_bind, Pass.run_pure, run_place r outline supply,
        run_placeAll r rest, hfirst, hrest, Outline.fillAll, Outline.fieldsIn, Nat.zero_add,
        IdSupply.skip_skip, Answers.widthOf_append, noticesOf_append, List.append_nil]
termination_by structural outlines => outlines

end

/-- Rendering some blocks fills their outline with the nodes of their shown
fields, each at its own number. -/
theorem run_blocks (r : Renderer N) (blocks : List Block) (supply : IdSupply) :
    (r.blocks blocks).run supply =
      ⟨Outline.fillAll r.builder (r.standIn supply (Block.shownFieldsOf blocks)) 0
          (Block.outlines blocks),
        supply.skip (r.answers.widthOf (Block.shownFieldsOf blocks)),
        r.noticesOf supply (Block.shownFieldsOf blocks)⟩ := by
  rw [blocks_eq_placeAll, run_placeAll, Block.fieldsIn_outlines]

/-! ## Nodes -/

/-- A renderer that makes nodes. -/
abbrev nodes (idPrefix : String) (answers : Answers) : Renderer Node :=
  ⟨.tree, idPrefix, answers⟩

/-- A rendered document is its outline, filled with the nodes of its shown fields. -/
theorem render_eq_fillAll (idPrefix : String) (answers : Answers) (doc : Document) :
    doc.render idPrefix answers =
      Outline.fillAll .tree ((nodes idPrefix answers).standIn .start doc.shownFields) 0
        (Block.outlines doc.blocks) :=
  congrArg Pass.Result.value (run_blocks (nodes idPrefix answers) doc.blocks .start)

end Renderer

end ProseForms
