import Std.Data.String.ToNat
import ProseForms.Proofs.Render.Numbering

/-!
# The ids of a rendering

Which ids, names and label targets a rendering hands out.

* `FormField.LaidOutAt` says how a field is numbered from a base number on: the
  base is the id of a single control and the name of a group, and the choices of
  a group get the numbers after it.
* `run_blocks_laidOut` says that every field of some blocks is laid out at the
  number that is left by the fields before it, and that nothing else but the
  anchors of link references has an address.
-/

namespace ProseForms

/-! ## Ids by number -/

/-- The id with a number in the scope of a prefix. -/
def idAt (idPrefix : String) (number : Nat) : String :=
  idPrefix ++ "-" ++ Nat.repr number

theorem idOf_eq_idAt (idPrefix : String) (number : UInt32) :
    IdSupply.idOf idPrefix number = idAt idPrefix number.toNat := rfl

/-- Different numbers give different ids. -/
theorem idAt_injective (idPrefix : String) : Function.Injective (idAt idPrefix) := by
  intro m n h
  have hrepr : Nat.repr m = Nat.repr n := (String.append_right_inj _).1 h
  exact Nat.repr_injective hrepr

/-! ## How a field is laid out -/

/-- A choice of a group: a control with its id and the name of the group, next to
a label for that id. -/
def IsChoiceAt (id group : String) (item : Node) : Prop :=
  ∃ control caption,
    item = .element ⟨.li, {}, none⟩ [control, caption] ∧
    control.addresses = [⟨.input, some id, some group, none⟩] ∧
    caption.addresses = [⟨.label, none, none, some id⟩]

/-- A group of choices at a base number: its own label is for no control, and its
choices get the numbers after the base. -/
def IsGroupAt (idPrefix : String) (base count : Nat) (node : Node) : Prop :=
  ∃ caption items,
    node = .element ⟨.span, {}, none⟩ [caption, .element ⟨.ul, {}, none⟩ items] ∧
    caption.tag? = some .label ∧ caption.addresses = [] ∧
    items.length = count ∧
    ∀ j item, items[j]? = some item →
      IsChoiceAt (idAt idPrefix (base + 1 + j)) (idAt idPrefix base) item

/-- A single control at a base number: the base is its id and name, and its label
is for that id. -/
def IsSingleAt (idPrefix : String) (base : Nat) (tag : Tag) (node : Node) : Prop :=
  let id := idAt idPrefix base
  ∃ caption control,
    node = .element ⟨.span, {}, none⟩ [caption, control] ∧
    caption.addresses = [⟨.label, none, none, some id⟩] ∧
    control.addresses = [⟨tag, some id, some id, none⟩]

/-- How a field is numbered from a base number on. -/
def FormField.LaidOutAt (field : FormField) (idPrefix : String) (answers : Answers)
    (base : Nat) (node : Node) : Prop :=
  match field.spec.control? with
  | none => node = .text Renderer.unsupportedText
  | some (.textBox ..) => IsSingleAt idPrefix base .input node
  | some (.dropDown ..) => IsSingleAt idPrefix base .select node
  | some (.radioButtons _ options) => IsGroupAt idPrefix base (options.length + 1) node
  | some (.checkBoxes flags options) =>
      IsGroupAt idPrefix base
        (if (answers.options? field.label).isSome then options.length
          else min flags.length options.length) node

/-! ### The addresses in a field -/

/-- The addresses of the choices of a group at a base number. -/
def choiceAddresses (idPrefix : String) (base count : Nat) : List Address :=
  (List.range count).flatMap fun j => [
    ⟨.input, some (idAt idPrefix (base + 1 + j)), some (idAt idPrefix base), none⟩,
    ⟨.label, none, none, some (idAt idPrefix (base + 1 + j))⟩]

theorem addresses_of_isChoiceAt {id group : String} {item : Node}
    (h : IsChoiceAt id group item) :
    item.addresses = [⟨.input, some id, some group, none⟩, ⟨.label, none, none, some id⟩] := by
  obtain ⟨control, caption, rfl, hcontrol, hcaption⟩ := h
  rw [Node.addresses_element]
  simp only [Node.addressesIn_cons, hcontrol, hcaption]
  rfl

theorem addresses_of_isSingleAt {idPrefix : String} {base : Nat} {tag : Tag} {node : Node}
    (h : IsSingleAt idPrefix base tag node) :
    node.addresses = [⟨.label, none, none, some (idAt idPrefix base)⟩,
      ⟨tag, some (idAt idPrefix base), some (idAt idPrefix base), none⟩] := by
  obtain ⟨caption, control, rfl, hcaption, hcontrol⟩ := h
  rw [Node.addresses_element]
  simp only [Node.addressesIn_cons, hcontrol, hcaption]
  rfl

theorem addresses_of_isGroupAt {idPrefix : String} {base count : Nat} {node : Node}
    (h : IsGroupAt idPrefix base count node) :
    node.addresses = choiceAddresses idPrefix base count := by
  obtain ⟨caption, items, rfl, _, hcaption, rfl, hitems⟩ := h
  have hchoices : items.map Node.addresses = (List.range items.length).map fun j => [
      ⟨.input, some (idAt idPrefix (base + 1 + j)), some (idAt idPrefix base), none⟩,
      ⟨.label, none, none, some (idAt idPrefix (base + 1 + j))⟩] := by
    refine List.ext_getElem (by simp) fun j hj _ => ?_
    have hj' : j < items.length := by simpa using hj
    simpa using addresses_of_isChoiceAt (hitems j _ (List.getElem?_eq_getElem hj'))
  rw [Node.addresses_element]
  simp only [Node.addressesIn_cons, hcaption, Node.addresses_element]
  simp [Element.address?, Node.addressesIn_eq_flatMap, choiceAddresses, List.flatMap_def,
    hchoices]

namespace Renderer

variable {idPrefix : String} {answers : Answers}

theorem isGroupAt_groupNode {supply : IdSupply} {caption : Node} (inputType : String)
    (bind : String → Binding) {shown : List (String × Bool)}
    (htag : caption.tag? = some .label) (haddresses : caption.addresses = [])
    (h : supply.next.toNat + (1 + shown.length) ≤ UInt32.size) :
    IsGroupAt idPrefix supply.next.toNat shown.length
      (.element ⟨.span, {}, none⟩ [caption,
        (nodes idPrefix answers).groupNode (IdSupply.idOf idPrefix supply.next) inputType bind
          supply.advance shown]) := by
  refine ⟨caption, _, rfl, htag, haddresses, List.length_mapIdx, ?_⟩
  intro j item hitem
  rw [List.getElem?_mapIdx] at hitem
  obtain ⟨choice, hchoice, rfl⟩ := Option.map_eq_some_iff.1 hitem
  have hj : j < shown.length := (List.getElem?_eq_some_iff.1 hchoice).1
  have hnumber : (supply.advance.skip j).next.toNat = supply.next.toNat + 1 + j := by
    rw [IdSupply.advance_eq_skip, IdSupply.skip_skip, IdSupply.toNat_next_skip (by omega)]
    omega
  rw [idOf_eq_idAt, idOf_eq_idAt, hnumber]
  exact ⟨_, _, rfl, rfl, rfl⟩

theorem addresses_dropDown (id key : String) (options : List String)
    (default : Option String) :
    ((nodes idPrefix answers).dropDown id key options default).addresses =
      [⟨.select, some id, some id, none⟩] := by
  have hoptions : ∀ shown : List (String × Bool),
      Node.addressesIn (shown.map fun choice =>
        .element ⟨.option, { value := some choice.1, selected := choice.2 }, none⟩
          [.text choice.1]) = [] := by
    intro shown
    induction shown with
    | nil => rfl
    | cons choice rest ih => exact ih
  exact congrArg (_ :: ·) (hoptions (answers.shownOptions key options default))

/-- A field is laid out from the number of the supply that it starts from. -/
theorem laidOutAt_fieldNode (supply : IdSupply) (field : FormField)
    (h : supply.next.toNat + answers.width field ≤ UInt32.size) :
    field.LaidOutAt idPrefix answers supply.next.toNat
      ((nodes idPrefix answers).fieldNode supply field) := by
  unfold FormField.LaidOutAt fieldNode
  unfold Answers.width at h
  cases hcontrol : field.spec.control? with
  | none => rfl
  | some control =>
      rw [hcontrol] at h
      cases control with
      | textBox kind default => exact ⟨_, _, rfl, rfl, rfl⟩
      | dropDown options default =>
          exact ⟨_, _, rfl, rfl, addresses_dropDown _ field.label options default⟩
      | radioButtons default options =>
          have hlength : (answers.shownRadios field.label default options).length =
              options.length + 1 := by simp [Answers.shownRadios]
          show IsGroupAt idPrefix supply.next.toNat (options.length + 1) _
          rw [← hlength]
          refine isGroupAt_groupNode "radio" (.choose field.label) rfl rfl ?_
          rw [hlength]
          simp only at h
          omega
      | checkBoxes flags options =>
          have hlength := answers.length_shownBoxes field.label flags options
          show IsGroupAt idPrefix supply.next.toNat (ite _ _ _) _
          rw [← hlength]
          refine isGroupAt_groupNode "checkbox" (.toggle field.label) rfl rfl ?_
          rw [hlength]
          exact h

/-! ## Where the fields of some blocks are laid out -/

theorem laidOutAt_standIn {fields : List FormField} {supply : IdSupply}
    (h : supply.next.toNat + answers.widthOf fields ≤ UInt32.size) {i : Nat}
    {field : FormField} (hfield : fields[i]? = some field) :
    field.LaidOutAt idPrefix answers (supply.next.toNat + answers.widthOf (fields.take i))
      ((nodes idPrefix answers).standIn supply fields i field) := by
  have hle := answers.widthOf_take_add_width_le hfield
  cases hcontrol : field.spec.control? with
  | none => simp [FormField.LaidOutAt, standIn, fieldNode, hcontrol, Renderer.text, Builder.tree]
  | some control =>
      have hpos := answers.width_pos hcontrol
      have hbase : (supply.skip (answers.widthOf (fields.take i))).next.toNat =
          supply.next.toNat + answers.widthOf (fields.take i) :=
        IdSupply.toNat_next_skip (by omega)
      rw [← hbase]
      exact laidOutAt_fieldNode _ field (by omega)

theorem addressesIn_fillAll_perm (f : Nat → FormField → Node) (blocks : List Block) :
    (Node.addressesIn (Outline.fillAll .tree f 0 (Block.outlines blocks))).Perm
      ((Block.linkLabelsOf blocks).map Address.anchor ++
        ((Block.shownFieldsOf blocks).mapIdx f).flatMap Node.addresses) := by
  have hperm := (Outline.headsIn_fillAll_perm (f := f) (Block.outlines blocks) 0).filterMap
    Element.address?
  rw [List.filterMap_append, Block.addresses_outlines, Block.fieldsIn_outlines,
    Outline.standInHeads, List.filterMap_flatMap] at hperm
  simp only [Nat.zero_add] at hperm
  exact hperm

/-- Rendering some blocks lays every shown field out at the number that the fields
before it leave, and gives an address to nothing else but the anchors of link
references. -/
theorem run_blocks_laidOut (idPrefix : String) (answers : Answers) (blocks : List Block)
    (supply : IdSupply)
    (h : supply.next.toNat + answers.widthOf (Block.shownFieldsOf blocks) < UInt32.size) :
    let fields := Block.shownFieldsOf blocks
    let done := ((nodes idPrefix answers).blocks blocks).run supply
    done.supply.next.toNat = supply.next.toNat + (fields.map answers.width).sum ∧
    Outline.fieldsIn (Block.outlines blocks) = fields ∧
    ∃ node : Nat → FormField → Node,
      done.value = Outline.fillAll .tree node 0 (Block.outlines blocks) ∧
      (∀ i (field : FormField), fields[i]? = some field →
        field.LaidOutAt idPrefix answers
          (supply.next.toNat + ((fields.take i).map answers.width).sum) (node i field)) ∧
      (Node.addressesIn done.value).Perm
        ((Block.linkLabelsOf blocks).map Address.anchor ++
          (fields.mapIdx node).flatMap Node.addresses) := by
  intro fields done
  have hdone : done = _ := run_blocks (nodes idPrefix answers) blocks supply
  rw [hdone]
  refine ⟨IdSupply.toNat_next_skip h, Block.fieldsIn_outlines blocks,
    (nodes idPrefix answers).standIn supply fields, rfl, ?_, addressesIn_fillAll_perm _ blocks⟩
  intro i field hfield
  exact laidOutAt_standIn (Nat.le_of_lt h) hfield

/-- A radio group in a quote takes three numbers, a field in an image none, check boxes
with one flag for two options two, and a text box one. -/
theorem run_blocks_laidOut_nested :
    let blocks : List Block := [.linkReference "here" "u",
      .blockquote [.paragraph [.formField
        ⟨"Size", true, .radioButtons (.literal "S") (.literal ["M"])⟩]],
      .paragraph [.image [.formField ⟨"Hidden", false, .textBox .date none⟩] "u",
        .formField ⟨"Fruit", false, .checkBoxes (.literal [true]) (.literal ["Apple", "Pear"])⟩,
        .formField ⟨"Name", false, .textBox .plainText none⟩]]
    IdSupply.start.next.toNat + Answers.empty.widthOf (Block.shownFieldsOf blocks) <
        UInt32.size ∧
      (((nodes "p" .empty).blocks blocks).run .start).supply.next.toNat = 7 := by
  intro blocks
  have hroom : IdSupply.start.next.toNat + Answers.empty.widthOf (Block.shownFieldsOf blocks) <
      UInt32.size := by decide
  exact ⟨hroom, (run_blocks_laidOut "p" .empty blocks .start hroom).1.trans (by decide)⟩

end Renderer

end ProseForms
