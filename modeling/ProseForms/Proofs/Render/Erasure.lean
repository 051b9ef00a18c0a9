import ProseForms.Proofs.Render.Numbering

/-!
# What does not depend on the answers

A rendering shows the answers in the values, check marks and selections of its
controls.  With these erased it depends on the answers in one respect only: a group
of check boxes shows all its options when a set is held under its label, and pairs
them with its flags otherwise.

* `eraseShown_render_eq_of_width` says that answers under which every field takes the
  same number of ids give the same rendering, ids included, after the erasure.
* `Answers.SameSets` says that two collections of answers hold a set under the same
  labels of check boxes, which is enough for that.
-/

namespace ProseForms

/-! ## Erasing what is shown -/

/-- An element without the value, the check mark and the selection of an input or an
option. -/
def Element.eraseShown (head : Element) : Element :=
  if head.tag = .input ∨ head.tag = .option then
    { head with attributes := {
        head.attributes with value := none, checked := false, selected := false } }
  else head

/-- Builds nodes without what inputs and options show. -/
def Builder.erased : Builder Node where
  text := .text
  element head := .element head.eraseShown

namespace Node

/-- A forest without what its inputs and options show. -/
def eraseShown (nodes : List Node) : List Node :=
  foldAll .erased nodes

mutual

theorem heads_fold_erased :
    ∀ node : Node, (node.fold .erased).heads = node.heads.map Element.eraseShown
  | text _ => rfl
  | element head children => congrArg (head.eraseShown :: ·) (headsIn_eraseShown children)
termination_by structural node => node

/-- The erasure changes the elements of a forest one by one. -/
theorem headsIn_eraseShown :
    ∀ nodes : List Node, headsIn (eraseShown nodes) = (headsIn nodes).map Element.eraseShown
  | [] => rfl
  | node :: rest => by
      rw [eraseShown, foldAll, headsIn_cons, headsIn_cons, List.map_append,
        heads_fold_erased node]
      exact congrArg (_ ++ ·) (headsIn_eraseShown rest)
termination_by structural nodes => nodes

end

/-- The erasure keeps the ids. -/
theorem idsIn_eraseShown (nodes : List Node) : idsIn (eraseShown nodes) = idsIn nodes := by
  have hid : ∀ head : Element, head.eraseShown.attributes.id = head.attributes.id := by
    intro head
    unfold Element.eraseShown
    split <;> rfl
  rw [idsIn, idsIn, headsIn_eraseShown, List.filterMap_map]
  exact congrArg (List.filterMap · _) (funext hid)

end Node

/-! ## Answers that hold the same sets -/

namespace Answers

/-- Two collections of answers hold a set under the same labels of check boxes. -/
def SameSets (answers other : Answers) (fields : List FormField) : Prop :=
  ∀ field ∈ fields, ∀ flags options,
    field.spec.control? = some (.checkBoxes flags options) →
      (answers.options? field.label).isSome = (other.options? field.label).isSome

variable {answers other : Answers} {fields : List FormField}

/-- Answers that hold the same sets show the same number of boxes. -/
theorem SameSets.width_eq (h : answers.SameSets other fields) {field : FormField}
    (hfield : field ∈ fields) : answers.width field = other.width field := by
  unfold width
  split
  · rfl
  · rfl
  · rfl
  · rfl
  · rename_i hcontrol
    rw [h field hfield _ _ hcontrol]

theorem map_fst_shownRadios_eq (answers other : Answers) (key default : String)
    (options : List String) :
    (answers.shownRadios key default options).map Prod.fst =
      (other.shownRadios key default options).map Prod.fst := by
  simp [shownRadios, Function.comp_def]

theorem map_fst_shownOptions_eq (answers other : Answers) (key : String)
    (options : List String) (default : Option String) :
    (answers.shownOptions key options default).map Prod.fst =
      (other.shownOptions key options default).map Prod.fst := by
  cases default <;> simp [shownOptions, Function.comp_def]

end Answers

/-! ## Rendering after the erasure -/

namespace Renderer

variable {idPrefix : String} {answers other : Answers}

/-- The items of a group after the erasure do not depend on which are checked. -/
theorem map_fold_erased_choiceItems (group inputType : String) (bind : String → Binding)
    (supply : IdSupply) (shown : List (String × Bool)) :
    (shown.mapIdx fun j choice => (nodes idPrefix answers).choiceItem group inputType bind
        (IdSupply.idOf idPrefix (supply.skip j).next) choice).map (Node.fold .erased) =
      (shown.map Prod.fst).mapIdx fun j value =>
        ((nodes idPrefix .empty).choiceItem group inputType bind
          (IdSupply.idOf idPrefix (supply.skip j).next) (value, false)).fold .erased := by
  refine List.ext_getElem? fun j => ?_
  simp only [List.getElem?_map, List.getElem?_mapIdx, Option.map_map]
  rfl

theorem fold_erased_groupNode (group inputType : String) (bind : String → Binding)
    (supply : IdSupply) {shown shown' : List (String × Bool)}
    (h : shown.map Prod.fst = shown'.map Prod.fst) :
    ((nodes idPrefix answers).groupNode group inputType bind supply shown).fold .erased =
      ((nodes idPrefix other).groupNode group inputType bind supply shown').fold .erased := by
  refine congrArg (Node.element _) ?_
  rw [Node.foldAll_eq_map, Node.foldAll_eq_map]
  calc
    _ = _ := map_fold_erased_choiceItems group inputType bind supply shown
    _ = _ := by rw [h]
    _ = _ := (map_fold_erased_choiceItems group inputType bind supply shown').symm

theorem fold_erased_dropDown (id key : String) (options : List String)
    (default : Option String) :
    ((nodes idPrefix answers).dropDown id key options default).fold .erased =
      ((nodes idPrefix other).dropDown id key options default).fold .erased := by
  have hoptions : ∀ shown : List (String × Bool),
      (shown.map fun choice => (nodes idPrefix answers).element
        ⟨.option, { value := some choice.1, selected := choice.2 }, none⟩
          [.text choice.1]).map (Node.fold .erased) =
        (shown.map Prod.fst).map fun value => .element ⟨.option, {}, none⟩ [.text value] := by
    intro shown
    rw [List.map_map, List.map_map]
    rfl
  refine congrArg (Node.element _) ?_
  rw [Node.foldAll_eq_map, Node.foldAll_eq_map]
  calc
    _ = _ := hoptions (answers.shownOptions key options default)
    _ = _ := by rw [answers.map_fst_shownOptions_eq other]
    _ = _ := (hoptions (other.shownOptions key options default)).symm

/-- A field after the erasure depends on the answers only as far as they decide how many
ids it takes. -/
theorem fold_erased_fieldNode {field : FormField}
    (h : answers.width field = other.width field) (supply : IdSupply) :
    ((nodes idPrefix answers).fieldNode supply field).fold .erased =
      ((nodes idPrefix other).fieldNode supply field).fold .erased := by
  unfold fieldNode
  unfold Answers.width at h
  cases hcontrol : field.spec.control? with
  | none => rfl
  | some control =>
      rw [hcontrol] at h
      have hnode : ∀ id,
          ((nodes idPrefix answers).controlNode id field.label supply.advance control).fold
            .erased =
          ((nodes idPrefix other).controlNode id field.label supply.advance control).fold
            .erased := by
        intro id
        cases control with
        | textBox kind default => rfl
        | dropDown options default => exact fold_erased_dropDown ..
        | radioButtons default options =>
            exact fold_erased_groupNode _ _ _ _
              (Answers.map_fst_shownRadios_eq answers other field.label default options)
        | checkBoxes flags options =>
            refine fold_erased_groupNode _ _ _ _ ?_
            show (answers.shownBoxes ..).map Prod.fst = (other.shownBoxes ..).map Prod.fst
            rw [Answers.map_fst_shownBoxes, Answers.map_fst_shownBoxes,
              Answers.length_shownBoxes, Answers.length_shownBoxes, Nat.add_left_cancel h]
      exact congrArg (fun node => Node.element _ [_, node]) (hnode _)

/-- Answers under which every field takes the same number of ids give the same rendering
after the erasure. -/
theorem eraseShown_render_eq_of_width (idPrefix : String) {doc : Document}
    (h : ∀ field ∈ doc.shownFields, answers.width field = other.width field) :
    Node.eraseShown (doc.render idPrefix answers) =
      Node.eraseShown (doc.render idPrefix other) := by
  unfold Node.eraseShown
  rw [render_eq_fillAll, render_eq_fillAll, Outline.foldAll_fillAll, Outline.foldAll_fillAll]
  refine Outline.fillAll_congr fun i field hfield => ?_
  rw [Block.fieldsIn_outlines] at hfield
  rw [Nat.zero_add]
  show ((nodes idPrefix answers).fieldNode (IdSupply.start.skip _) field).fold _ = _
  rw [fold_erased_fieldNode (h field (List.mem_of_getElem? hfield)),
    Answers.widthOf_take_congr h]
  rfl

/-- Answers that hold the same sets give the same rendering after the erasure. -/
theorem eraseShown_render_eq (idPrefix : String) {doc : Document}
    (h : answers.SameSets other doc.shownFields) :
    Node.eraseShown (doc.render idPrefix answers) =
      Node.eraseShown (doc.render idPrefix other) :=
  eraseShown_render_eq_of_width idPrefix fun _ => h.width_eq

end Renderer

end ProseForms
