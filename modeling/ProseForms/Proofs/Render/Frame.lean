import ProseForms.Proofs.Render.Display

/-!
# What an edit leaves alone

A field looks at the answer under its own label and at no other, so an edit changes
nothing in the fields of other labels but their numbers: a group of check boxes of the
edited label may show more boxes than before, and everything after it moves on.

* `fieldNode_congr` says that a field depends on the answer under its label alone, and
  `fold_eraseAddress_fieldNode` that its numbers are only in its addresses.
* `Node.hollowIn` takes out of a forest what is inside the containers of a label, and
  `hollowIn_render` says what is left of a rendering.
* `hollowIn_render_apply` says that an edit leaves all of that as it is.
-/

namespace ProseForms

/-! ## Erasing addresses -/

/-- Builds nodes whose elements are changed one by one. -/
def Builder.revise (f : Element → Element) : Builder Node where
  text := .text
  element head := .element (f head)

/-- An element without its id, its name and the id that it is for, if it is an input, a
select or a label. -/
def Element.eraseAddress (head : Element) : Element :=
  if head.tag = .input ∨ head.tag = .select ∨ head.tag = .label then
    { head with attributes := {
        head.attributes with id := none, name := none, forId := none } }
  else head

theorem Element.tag_eraseAddress (head : Element) : head.eraseAddress.tag = head.tag := by
  unfold eraseAddress
  split <;> rfl

/-- A forest without the addresses of its inputs, selects and labels. -/
def Node.eraseAddresses (nodes : List Node) : List Node :=
  foldAll (.revise Element.eraseAddress) nodes

/-! ## Taking out the insides of containers -/

namespace Node

mutual

/-- A node without the insides of the containers of a key.  The labels are those of the
containers in document order, and every container takes one; the labels that are left
come second. -/
def hollow (key : String) (labels : List String) : Node → Node × List String
  | text content => (text content, labels)
  | element head children =>
      if head.tag = .span then
        (element head (if labels.head? = some key then [] else children), labels.tail)
      else
        let inside := hollowIn key labels children
        (element head inside.1, inside.2)
termination_by structural node => node

/-- A forest without the insides of the containers of a key, and the labels that are
left. -/
def hollowIn (key : String) (labels : List String) : List Node → List Node × List String
  | [] => ([], labels)
  | node :: rest =>
      let first := node.hollow key labels
      let others := hollowIn key first.2 rest
      (first.1 :: others.1, others.2)
termination_by structural nodes => nodes

end

/-- What a field becomes: a container if it can be shown, and the text for unsupported
fields otherwise. -/
def StandsFor (node : Node) (field : FormField) : Prop :=
  match field.spec.control? with
  | none => node = text Renderer.unsupportedText
  | some _ => ∃ children, node = element ⟨.span, {}, none⟩ children

end Node

/-- The labels of the fields that can be shown. -/
def FormField.controlLabels (fields : List FormField) : List String :=
  (fields.filterMap FormField.control?).map Prod.fst

theorem FormField.controlLabels_append (first rest : List FormField) :
    controlLabels (first ++ rest) = controlLabels first ++ controlLabels rest := by
  simp [controlLabels]

/-- The node of a field takes the label of the field. -/
theorem Node.StandsFor.hollow_eq {node : Node} {field : FormField} (h : node.StandsFor field)
    (key : String) (more : List String) :
    node.hollow key (FormField.controlLabels [field] ++ more) =
      ((node.hollow key [field.label]).1, more) := by
  unfold StandsFor at h
  cases hcontrol : field.spec.control? with
  | none =>
      rw [hcontrol] at h
      obtain rfl : node = text Renderer.unsupportedText := h
      simp [FormField.controlLabels, FormField.control?, hcontrol, hollow]
  | some control =>
      rw [hcontrol] at h
      obtain ⟨children, rfl⟩ := h
      simp [FormField.controlLabels, FormField.control?, hcontrol, hollow]

/-- Of a field of the key nothing is left but the text or the container. -/
theorem Node.StandsFor.hollow_own {node other : Node} {field : FormField}
    (h : node.StandsFor field) (hother : other.StandsFor field) :
    (node.hollow field.label [field.label]).1 = (other.hollow field.label [field.label]).1 := by
  unfold StandsFor at h hother
  cases hcontrol : field.spec.control? with
  | none =>
      rw [hcontrol] at h hother
      rw [h, hother]
  | some control =>
      rw [hcontrol] at h hother
      obtain ⟨children, rfl⟩ := h
      obtain ⟨children', rfl⟩ := hother
      simp [hollow]

namespace Outline

variable {revise : Element → Element} {f : Nat → FormField → Node} {key : String}

mutual

theorem hollow_fill (hf : ∀ k field, (f k field).StandsFor field) :
    ∀ (outline : Outline) (i : Nat) (more : List String),
      (∀ head ∈ outline.heads, (revise head).tag ≠ .span) →
      (outline.fill (.revise revise) f i).hollow key
          (FormField.controlLabels outline.fields ++ more) =
        (outline.fill (.revise revise)
          (fun k field => ((f k field).hollow key [field.label]).1) i, more)
  | .text _, _, _, _ => rfl
  | .element head children, i, more, h => by
      have hinside := hollowIn_fillAll hf children i more fun below hbelow =>
        h below (List.mem_cons_of_mem head hbelow)
      refine (if_neg (h head List.mem_cons_self)).trans ?_
      rw [fields, hinside]
      rfl
  | .slot field, i, more, _ => (hf i field).hollow_eq key more
termination_by structural outline => outline

/-- Taking out the insides of containers is done field by field. -/
theorem hollowIn_fillAll (hf : ∀ k field, (f k field).StandsFor field) :
    ∀ (outlines : List Outline) (i : Nat) (more : List String),
      (∀ head ∈ headsIn outlines, (revise head).tag ≠ .span) →
      Node.hollowIn key (FormField.controlLabels (fieldsIn outlines) ++ more)
          (fillAll (.revise revise) f i outlines) =
        (fillAll (.revise revise)
          (fun k field => ((f k field).hollow key [field.label]).1) i outlines, more)
  | [], _, _, _ => rfl
  | outline :: rest, i, more, h => by
      have hfirst := hollow_fill hf outline i
        (FormField.controlLabels (fieldsIn rest) ++ more) fun head hhead =>
          h head (List.mem_append_left _ hhead)
      have hrest := hollowIn_fillAll hf rest (i + outline.fields.length) more fun head hhead =>
        h head (List.mem_append_right _ hhead)
      -- The first outline takes its labels from the front and hands on those of the rest.
      rw [fillAll, Node.hollowIn, fieldsIn, FormField.controlLabels_append, List.append_assoc,
        hfirst, hrest]
      rfl
termination_by structural outlines => outlines

end

end Outline

/-! ## What a field depends on -/

/-- How many ids a field takes depends on the answer under its label alone. -/
theorem Answers.width_congr {answers other : Answers} {field : FormField}
    (h : answers.get? field.label = other.get? field.label) :
    answers.width field = other.width field := by
  have hoptions : answers.options? field.label = other.options? field.label :=
    congrArg (·.bind Answer.options?) h
  unfold width
  rw [hoptions]

namespace Renderer

variable {idPrefix : String} {answers other : Answers}

/-- A field depends on the answer under its label alone. -/
theorem fieldNode_congr {field : FormField}
    (h : answers.get? field.label = other.get? field.label) (supply : IdSupply) :
    (nodes idPrefix answers).fieldNode supply field =
      (nodes idPrefix other).fieldNode supply field :=
  fieldNode_eq_of_shown (fun control _ => control.shown_congr h) supply

/-! ## What the numbers of a field are in -/

theorem fold_eraseAddress_groupNode (group group' inputType : String)
    (bind : String → Binding) (supply supply' : IdSupply) (shown : List (String × Bool)) :
    ((nodes idPrefix answers).groupNode group inputType bind supply shown).fold
        (.revise Element.eraseAddress) =
      ((nodes idPrefix answers).groupNode group' inputType bind supply' shown).fold
        (.revise Element.eraseAddress) := by
  unfold groupNode
  refine (Node.fold_element _ _ _).trans (Eq.trans ?_ (Node.fold_element _ _ _).symm)
  rw [map_mapIdx, map_mapIdx]
  rfl

/-- The numbers of a field are in its addresses only. -/
theorem fold_eraseAddress_fieldNode (supply supply' : IdSupply) (field : FormField) :
    ((nodes idPrefix answers).fieldNode supply field).fold (.revise Element.eraseAddress) =
      ((nodes idPrefix answers).fieldNode supply' field).fold
        (.revise Element.eraseAddress) := by
  cases hcontrol : field.spec.control? with
  | none => rw [fieldNode_eq_text supply hcontrol, fieldNode_eq_text supply' hcontrol]
  | some control =>
      rw [fieldNode_eq_element supply hcontrol, fieldNode_eq_element supply' hcontrol]
      cases control with
      | textBox kind default => rfl
      | dropDown options default => rfl
      | radioButtons default options =>
          exact congrArg (fun node => Node.element _ [_, node])
            (fold_eraseAddress_groupNode _ _ _ _ _ _ _)
      | checkBoxes flags options =>
          exact congrArg (fun node => Node.element _ [_, node])
            (fold_eraseAddress_groupNode _ _ _ _ _ _ _)

theorem standsFor_fieldNode (supply : IdSupply) (field : FormField) :
    (((nodes idPrefix answers).fieldNode supply field).fold
      (.revise Element.eraseAddress)).StandsFor field := by
  unfold Node.StandsFor
  cases hcontrol : field.spec.control? with
  | none =>
      rw [fieldNode_eq_text supply hcontrol]
      rfl
  | some control =>
      rw [fieldNode_eq_element supply hcontrol]
      exact ⟨_, rfl⟩

end Renderer

/-! ## What is left of a rendering -/

namespace Document

variable (idPrefix : String) (answers : Answers) (doc : Document)

/-- A field among those of a rendered document, without its addresses and without what
is in it if it is of the key. -/
def hollowField (key : String) (i : Nat) (field : FormField) : Node :=
  ((((Renderer.nodes idPrefix answers).standIn .start doc.shownFields i field).fold
    (.revise Element.eraseAddress)).hollow key [field.label]).1

/-- Without its addresses and the insides of the containers of a key, a rendering is its
outline filled with such fields; the labels are one for each container. -/
theorem hollowIn_render (key : String) :
    Node.hollowIn key (doc.controls.map Prod.fst)
        (Node.eraseAddresses (doc.render idPrefix answers)) =
      (Outline.fillAll (.revise Element.eraseAddress) (doc.hollowField idPrefix answers key) 0
        (Block.outlines doc.blocks), []) := by
  have hheads : ∀ head ∈ Outline.headsIn (Block.outlines doc.blocks),
      head.eraseAddress.tag ≠ .span := by
    intro head hhead
    rw [head.tag_eraseAddress]
    exact Block.tag_ne_of_mem_headsIn_outlines rfl hhead
  have hlabels : doc.controls.map Prod.fst =
      FormField.controlLabels (Outline.fieldsIn (Block.outlines doc.blocks)) ++ [] := by
    rw [List.append_nil, Block.fieldsIn_outlines]
    rfl
  rw [Node.eraseAddresses, Renderer.render_eq_fillAll, Outline.foldAll_fillAll, hlabels]
  exact Outline.hollowIn_fillAll (fun _ field => Renderer.standsFor_fieldNode _ field) _ 0 []
    hheads

/-- An edit changes only the insides of the containers of its key, and the addresses of
inputs, selects and labels; it changes nothing at all if no field of its key is shown. -/
theorem hollowIn_render_apply (edit : Edit) :
    let labels := doc.controls.map Prod.fst
    let before := doc.render idPrefix answers
    let after := doc.render idPrefix (answers.apply edit)
    Node.hollowIn edit.key labels (Node.eraseAddresses before) =
        Node.hollowIn edit.key labels (Node.eraseAddresses after) ∧
      ((∀ field ∈ doc.shownFields, field.label ≠ edit.key) → before = after) := by
  intro labels before after
  have hkeep : ∀ {field : FormField}, field.label ≠ edit.key →
      answers.get? field.label = (answers.apply edit).get? field.label := fun h =>
    (Answers.get?_apply_of_ne (Ne.symm h)).symm
  constructor
  · rw [hollowIn_render, hollowIn_render]
    refine congrArg (·, []) (Outline.fillAll_congr fun i field _ => ?_)
    unfold hollowField Renderer.standIn
    -- A field of the key is left as an empty container on both sides; any other field is
    -- the same up to the number that it starts from.
    by_cases hlabel : field.label = edit.key
    · rw [← hlabel]
      exact (Renderer.standsFor_fieldNode _ field).hollow_own
        (Renderer.standsFor_fieldNode _ field)
    · rw [Renderer.fieldNode_congr (hkeep hlabel), Renderer.fold_eraseAddress_fieldNode]
  · intro hother
    show doc.render idPrefix answers = doc.render idPrefix (answers.apply edit)
    rw [Renderer.render_eq_fillAll, Renderer.render_eq_fillAll]
    refine Outline.fillAll_congr fun i field hfield => ?_
    rw [Block.fieldsIn_outlines] at hfield
    have hwidths : ∀ other ∈ doc.shownFields,
        answers.width other = (answers.apply edit).width other := fun other hmem =>
      Answers.width_congr (hkeep (hother other hmem))
    unfold Renderer.standIn
    rw [Renderer.fieldNode_congr (hkeep (hother field (List.mem_of_getElem? hfield))),
      Nat.zero_add]
    show (Renderer.nodes idPrefix _).fieldNode (IdSupply.start.skip _) field = _
    rw [Answers.widthOf_take_congr hwidths]

/-- The edited field is in the body of an image, before a group of check boxes and a text
box. -/
theorem render_apply_fieldInImage :
    let doc : Document := ⟨[.blockquote [.paragraph [
      .image [.formField ⟨"Name", false, .textBox .plainText none⟩] "u",
      .formField ⟨"Fruit", false, .checkBoxes (.literal [true]) (.literal ["Apple", "Pear"])⟩,
      .formField ⟨"Day", true, .textBox .date none⟩]]]⟩
    let edit := Edit.tick "Name" "Apple" true
    (∀ field ∈ doc.shownFields, field.label ≠ edit.key) ∧
      doc.render "p" .empty = doc.render "p" (Answers.empty.apply edit) := by
  intro doc edit
  have hother : ∀ field ∈ doc.shownFields, field.label ≠ edit.key := by decide
  exact ⟨hother, (hollowIn_render_apply "p" .empty doc edit).2 hother⟩

end Document

end ProseForms
