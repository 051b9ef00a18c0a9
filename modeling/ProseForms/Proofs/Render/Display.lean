import ProseForms.Proofs.Render.Containers

/-!
# What controls show and which bindings they carry

What a user sees of an input is its value and whether it is checked, and of an option
its value and whether it is selected.  What a user can do with a control is in its
bindings.  Both are read here off the containers of a rendered document.

* `Renderer.SeesControls` says of a view of elements what it takes to see the controls and
  nothing else.  Such a view of a rendering is known control by control, which
  `SeesControls.map_containersIn` and `SeesControls.headsIn_perm` say once for all views.
* `Document.shown_eq` and `Document.bindings_eq` say so of what a rendering shows and binds.
* `Control.shown_congr` says that a control looks at the answer under its own key and
  at no other.
* `Renderer.render_eq_of_shown` says that answers under which every control shows the same
  give the same rendering.
-/

namespace ProseForms

/-! ## Two views of a container -/

/-- What an input or an option shows: its value, and whether it is checked or
selected. -/
def Element.shown? (head : Element) : Option (String × Bool) :=
  match head.tag with
  | .input => head.attributes.value.map fun value => (value, head.attributes.checked)
  | .option => head.attributes.value.map fun value => (value, head.attributes.selected)
  | _ => none

/-- What the inputs and options in a node show, in document order. -/
def Node.shown (node : Node) : List (String × Bool) :=
  node.heads.filterMap Element.shown?

/-- The bindings in a node, in document order. -/
def Node.bindings (node : Node) : List Binding :=
  node.heads.filterMap Element.binding

namespace Document

variable (idPrefix : String) (answers : Answers) (doc : Document)

/-- What the containers of a rendered document show, one after the other. -/
def shown : List (List (String × Bool)) :=
  (Node.containersIn (doc.render idPrefix answers)).map Node.shown

/-- The bindings in the containers of a rendered document, one after the other. -/
def bindings : List (List Binding) :=
  (Node.containersIn (doc.render idPrefix answers)).map Node.bindings

/-- What the `j`-th input or option of the `i`-th container of a rendered document
shows. -/
def shownAt (i j : Nat) : Option (String × Bool) :=
  (doc.shown idPrefix answers)[i]?.bind (·[j]?)

/-- The `j`-th binding in the `i`-th container of a rendered document. -/
def bindingAt (i j : Nat) : Option Binding :=
  (doc.bindings idPrefix answers)[i]?.bind (·[j]?)

end Document

/-! ## The views of a control -/

namespace Control

/-- What a control shows; a text box is never checked. -/
def shown (answers : Answers) (key : String) : Control → List (String × Bool)
  | .textBox _ default => [(answers.shownText key default, false)]
  | .radioButtons default options => answers.shownRadios key default options
  | .checkBoxes flags options => answers.shownBoxes key flags options
  | .dropDown options default => answers.shownOptions key options default

/-- The bindings of a control. -/
def bindings (answers : Answers) (key : String) : Control → List Binding
  | .textBox kind _ => [.input kind key]
  | .radioButtons default options => (default :: options).map (.choose key)
  | .checkBoxes flags options =>
      (answers.shownBoxes key flags options).map fun choice => .toggle key choice.1
  | .dropDown .. => [.change key]

/-- A control looks at the answer under its own key only. -/
theorem shown_congr {answers other : Answers} {key : String}
    (h : answers.get? key = other.get? key) (control : Control) :
    control.shown answers key = control.shown other key := by
  have htext : answers.text? key = other.text? key := congrArg (·.bind Answer.text?) h
  have hoptions : answers.options? key = other.options? key :=
    congrArg (·.bind Answer.options?) h
  cases control with
  | textBox kind default => simp only [shown, Answers.shownText, htext]
  | radioButtons default options => simp only [shown, Answers.shownRadios, htext]
  | checkBoxes flags options => simp only [shown, Answers.shownBoxes, hoptions]
  | dropDown options default =>
      cases default <;> simp only [shown, Answers.shownOptions, htext]

end Control

namespace Renderer

variable {idPrefix : String} {answers : Answers}

/-- A view of the elements of a group, item by item. -/
theorem filterMap_heads_groupNode {γ : Type} {view : Element → Option γ}
    {g : String × Bool → Option γ} {group inputType : String} {bind : String → Binding}
    (hlist : view ⟨.ul, {}, none⟩ = none)
    (hitem : ∀ id choice, ((nodes idPrefix answers).choiceItem group inputType bind id
      choice).heads.filterMap view = (g choice).toList)
    (supply : IdSupply) (choices : List (String × Bool)) :
    ((nodes idPrefix answers).groupNode group inputType bind supply choices).heads.filterMap
      view = choices.filterMap g := by
  show List.filterMap view (⟨.ul, {}, none⟩ :: Node.headsIn _) = _
  rw [List.filterMap_cons_none hlist, Node.headsIn_eq_flatMap, List.filterMap_flatMap,
    flatMap_mapIdx_eq (fun node : Node => node.heads.filterMap view) fun _ => hitem _]
  exact (List.filterMap_eq_flatMap_toList g choices).symm

/-- A view that sees something of every item of a group. -/
theorem filterMap_heads_groupNode_map {γ : Type} {view : Element → Option γ}
    {g : String × Bool → γ} {group inputType : String} {bind : String → Binding}
    (hlist : view ⟨.ul, {}, none⟩ = none)
    (hitem : ∀ id choice, ((nodes idPrefix answers).choiceItem group inputType bind id
      choice).heads.filterMap view = [g choice])
    (supply : IdSupply) (choices : List (String × Bool)) :
    ((nodes idPrefix answers).groupNode group inputType bind supply choices).heads.filterMap
      view = choices.map g :=
  (filterMap_heads_groupNode (g := some ∘ g) hlist hitem supply choices).trans
    (congrFun List.filterMap_eq_map choices)

/-- A view of the elements of a drop down, option by option. -/
theorem filterMap_heads_dropDown {γ : Type} {view : Element → Option γ}
    {g : String × Bool → Option γ}
    (hoption : ∀ choice : String × Bool,
      view ⟨.option, { value := some choice.1, selected := choice.2 }, none⟩ = g choice)
    (id key : String) (options : List String) (default : Option String) :
    ((nodes idPrefix answers).dropDown id key options default).heads.filterMap view =
      (view ⟨.select, { id := some id, name := some id }, some (.change key)⟩).toList ++
        (answers.shownOptions key options default).filterMap g := by
  have hoptions : Node.headsIn ((answers.shownOptions key options default).map fun choice =>
        .element ⟨.option, { value := some choice.1, selected := choice.2 }, none⟩
          [.text choice.1]) =
      (answers.shownOptions key options default).map fun choice =>
        ⟨.option, { value := some choice.1, selected := choice.2 }, none⟩ := by
    rw [Node.headsIn_eq_flatMap, List.flatMap_map]
    exact List.flatMap_pure_eq_map _ _
  have hoptions' := congrArg (List.filterMap view) hoptions
  rw [List.filterMap_map, show view ∘ _ = g from funext hoption] at hoptions'
  show List.filterMap view (_ :: Node.headsIn _) = _
  rw [List.filterMap_cons, ← hoptions']
  cases view ⟨.select, { id := some id, name := some id }, some (.change key)⟩ <;> rfl

/-- A view that sees no options sees the select alone. -/
theorem filterMap_heads_dropDown_select {γ : Type} {view : Element → Option γ}
    (hoption : ∀ choice : String × Bool,
      view ⟨.option, { value := some choice.1, selected := choice.2 }, none⟩ = none)
    (id key : String) (options : List String) (default : Option String) :
    ((nodes idPrefix answers).dropDown id key options default).heads.filterMap view =
      (view ⟨.select, { id := some id, name := some id }, some (.change key)⟩).toList := by
  have hnone : (answers.shownOptions key options default).filterMap
      (fun _ => (none : Option γ)) = [] := List.filterMap_eq_nil_iff.2 fun _ _ => rfl
  rw [filterMap_heads_dropDown hoption, hnone, List.append_nil]

/-- A view of the elements of a field comes from its control, if the view has nothing of
containers and labels. -/
theorem filterMap_heads_fieldNode {γ : Type} {view : Element → Option γ}
    (hspan : view ⟨.span, {}, none⟩ = none)
    (hlabel : ∀ forId, view ⟨.label, { forId := forId }, none⟩ = none)
    (supply : IdSupply) {field : FormField} {control : Control}
    (h : field.spec.control? = some control) :
    ((nodes idPrefix answers).fieldNode supply field).heads.filterMap view =
      ((nodes idPrefix answers).controlNode (IdSupply.idOf idPrefix supply.next) field.label
        supply.advance control).heads.filterMap view := by
  have hnone : ∀ id, ((nodes idPrefix answers).fieldLabel id field control).heads.filterMap
      view = [] := fun _ => List.filterMap_cons_none (hlabel _)
  rw [fieldNode_eq_element supply h, Node.heads_element, List.filterMap_cons_none hspan,
    Node.headsIn_cons, Node.headsIn_cons, Node.headsIn_nil, List.append_nil,
    List.filterMap_append, hnone, List.nil_append]

theorem shown_groupNode (group inputType : String) (bind : String → Binding)
    (supply : IdSupply) (choices : List (String × Bool)) :
    ((nodes idPrefix answers).groupNode group inputType bind supply choices).shown = choices :=
  (filterMap_heads_groupNode (g := some) rfl (fun _ _ => rfl) supply choices).trans
    List.filterMap_some

theorem shown_controlNode (id key : String) (supply : IdSupply) (control : Control) :
    ((nodes idPrefix answers).controlNode id key supply control).shown =
      control.shown answers key := by
  cases control with
  | textBox kind default => rfl
  | radioButtons default options => exact shown_groupNode id "radio" (.choose key) supply _
  | checkBoxes flags options => exact shown_groupNode id "checkbox" (.toggle key) supply _
  | dropDown options default =>
      exact (filterMap_heads_dropDown (g := some) (fun _ => rfl) id key options default).trans
        List.filterMap_some

theorem bindings_controlNode (id key : String) (supply : IdSupply) (control : Control) :
    ((nodes idPrefix answers).controlNode id key supply control).bindings =
      control.bindings answers key := by
  cases control with
  | textBox kind default => rfl
  | radioButtons default options =>
      exact (filterMap_heads_groupNode_map (g := fun choice => .choose key choice.1) rfl
        (fun _ _ => rfl) supply _).trans List.map_map
  | checkBoxes flags options =>
      exact filterMap_heads_groupNode_map rfl (fun _ _ => rfl) supply _
  | dropDown options default =>
      exact filterMap_heads_dropDown_select (fun _ => rfl) id key options default

end Renderer

/-! ## The views of a document -/

namespace Renderer

/-- A view that has nothing of what the document itself contributes is a view of the
containers. -/
theorem filterMap_headsIn_render_perm {γ : Type} {view : Element → Option γ}
    (hview : ∀ head : Element, head.IsMarkup → view head = none) (idPrefix : String)
    (answers : Answers) (doc : Document) :
    ((Node.headsIn (doc.render idPrefix answers)).filterMap view).Perm
      ((Node.containersIn (doc.render idPrefix answers)).flatMap fun node =>
        node.heads.filterMap view) := by
  have hperm := (Outline.headsIn_fillAll_perm
    (f := (nodes idPrefix answers).standIn .start doc.shownFields)
    (Block.outlines doc.blocks) 0).filterMap view
  have houtline : (Outline.headsIn (Block.outlines doc.blocks)).filterMap view = [] :=
    List.filterMap_eq_nil_iff.2 fun head hhead =>
      hview head (Block.isMarkup_of_mem_headsIn_outlines hhead)
  have hfield : ∀ supply (field : FormField),
      (((nodes idPrefix answers).fieldNode supply field).withTag .span).flatMap
          (fun node => node.heads.filterMap view) =
        ((nodes idPrefix answers).fieldNode supply field).heads.filterMap view := by
    intro supply field
    rw [withTag_span_fieldNode]
    cases hcontrol : field.spec.control? with
    | none =>
        rw [fieldNode_eq_text supply hcontrol]
        rfl
    | some control => simp
  rw [List.filterMap_append, houtline, List.nil_append, Block.fieldsIn_outlines,
    Outline.standInHeads, List.filterMap_flatMap] at hperm
  simp only [Nat.zero_add] at hperm
  rw [containersIn_render, List.flatMap_assoc, render_eq_fillAll]
  refine hperm.trans (List.Perm.of_eq (List.flatMap_congr fun node hnode => ?_))
  obtain ⟨i, hi, rfl⟩ := List.mem_mapIdx.1 hnode
  exact (hfield _ _).symm

/-- Whether a view of elements sees of every control what `seen` says, and nothing of the
containers, the labels and the markup around the controls. -/
structure SeesControls {γ : Type} (view : Element → Option γ)
    (seen : Answers → String → Control → List γ) : Prop where
  markup : ∀ head : Element, head.IsMarkup → view head = none
  span : view ⟨.span, {}, none⟩ = none
  label : ∀ forId, view ⟨.label, { forId := forId }, none⟩ = none
  control : ∀ {idPrefix answers} (id key : String) (supply : IdSupply) (control : Control),
    ((nodes idPrefix answers).controlNode id key supply control).heads.filterMap view =
      seen answers key control

section

variable {γ : Type} {view : Element → Option γ} {seen : Answers → String → Control → List γ}

/-- What such a view sees in the containers of a rendering, control by control. -/
theorem SeesControls.map_containersIn (h : SeesControls view seen) (idPrefix : String)
    (answers : Answers) (doc : Document) :
    (Node.containersIn (doc.render idPrefix answers)).map
        (fun node => node.heads.filterMap view) =
      doc.controls.map fun (key, control) => seen answers key control := by
  refine map_containersIn_render (fun supply field control hcontrol => ?_) doc
  rw [filterMap_heads_fieldNode h.span h.label supply hcontrol, h.control]

/-- Such a view sees nothing outside the containers. -/
theorem SeesControls.headsIn_perm (h : SeesControls view seen) (idPrefix : String)
    (answers : Answers) (doc : Document) :
    ((Node.headsIn (doc.render idPrefix answers)).filterMap view).Perm
      ((Node.containersIn (doc.render idPrefix answers)).map
        fun node => node.heads.filterMap view).flatten :=
  filterMap_headsIn_render_perm h.markup idPrefix answers doc

end

theorem seesControls_shown : SeesControls Element.shown? Control.shown where
  markup head hhead := by
    unfold Element.shown?
    split
    · next hinput => exact absurd hinput (hhead.tag_ne rfl)
    · next hoption => exact absurd hoption (hhead.tag_ne rfl)
    · rfl
  span := rfl
  label _ := rfl
  control := shown_controlNode

theorem seesControls_bindings : SeesControls Element.binding Control.bindings where
  markup _ hhead := hhead.1
  span := rfl
  label _ := rfl
  control := bindings_controlNode

end Renderer

namespace Document

variable (idPrefix : String) (answers : Answers) (doc : Document)

/-- What a rendering shows, control by control. -/
theorem shown_eq :
    doc.shown idPrefix answers =
      doc.controls.map fun (key, control) => control.shown answers key :=
  Renderer.seesControls_shown.map_containersIn idPrefix answers doc

/-- The bindings in a rendering, control by control. -/
theorem bindings_eq :
    doc.bindings idPrefix answers =
      doc.controls.map fun (key, control) => control.bindings answers key :=
  Renderer.seesControls_bindings.map_containersIn idPrefix answers doc

variable {doc}

theorem shownAt_eq {i : Nat} {key : String} {control : Control}
    (h : doc.controls[i]? = some (key, control)) (j : Nat) :
    doc.shownAt idPrefix answers i j = (control.shown answers key)[j]? := by
  unfold shownAt
  rw [shown_eq, List.getElem?_map, h]
  rfl

theorem bindingAt_eq {i : Nat} {key : String} {control : Control}
    (h : doc.controls[i]? = some (key, control)) (j : Nat) :
    doc.bindingAt idPrefix answers i j = (control.bindings answers key)[j]? := by
  unfold bindingAt
  rw [bindings_eq, List.getElem?_map, h]
  rfl

end Document

/-! ## Rendering what is shown -/

section

variable {answers other : Answers} {field : FormField}

/-- A field takes the same number of ids under all answers under which its control shows the
same. -/
theorem Answers.width_eq_of_shown
    (h : ∀ control, field.spec.control? = some control →
      control.shown answers field.label = control.shown other field.label) :
    answers.width field = other.width field := by
  unfold width
  cases hcontrol : field.spec.control? with
  | none => rfl
  | some control =>
      cases control with
      | textBox kind default | radioButtons default options | dropDown options default => rfl
      | checkBoxes flags options =>
          have hlength := congrArg List.length (h _ hcontrol)
          rw [Control.shown, Control.shown, length_shownBoxes, length_shownBoxes] at hlength
          exact congrArg (1 + ·) hlength

namespace Renderer

variable {idPrefix : String}

theorem controlNode_eq_of_shown {key : String} {control : Control}
    (h : control.shown answers key = control.shown other key) (id : String)
    (supply : IdSupply) :
    (nodes idPrefix answers).controlNode id key supply control =
      (nodes idPrefix other).controlNode id key supply control := by
  cases control with
  | textBox kind default =>
      have htext : answers.shownText key default = other.shownText key default :=
        congrArg Prod.fst (List.cons.inj h).1
      show (nodes idPrefix answers).element _ [] = _
      simp only [htext]
      rfl
  | radioButtons default options =>
      exact congrArg ((nodes idPrefix answers).groupNode id "radio" (.choose key) supply) h
  | checkBoxes flags options =>
      exact congrArg ((nodes idPrefix answers).groupNode id "checkbox" (.toggle key) supply) h
  | dropDown options default =>
      refine congrArg (Node.element _) ?_
      exact congrArg (List.map _) h

theorem fieldNode_eq_of_shown
    (h : ∀ control, field.spec.control? = some control →
      control.shown answers field.label = control.shown other field.label)
    (supply : IdSupply) :
    (nodes idPrefix answers).fieldNode supply field =
      (nodes idPrefix other).fieldNode supply field := by
  cases hcontrol : field.spec.control? with
  | none => rw [fieldNode_eq_text supply hcontrol, fieldNode_eq_text supply hcontrol]
  | some control =>
      rw [fieldNode_eq_element supply hcontrol, fieldNode_eq_element supply hcontrol,
        controlNode_eq_of_shown (h control hcontrol)]
      rfl

/-- A rendering depends on the answers through what the controls show, ids included. -/
theorem render_eq_of_shown (idPrefix : String) {doc : Document}
    (h : ∀ field ∈ doc.shownFields, ∀ control, field.spec.control? = some control →
      control.shown answers field.label = control.shown other field.label) :
    doc.render idPrefix answers = doc.render idPrefix other := by
  rw [render_eq_fillAll, render_eq_fillAll]
  refine Outline.fillAll_congr fun i field hfield => ?_
  rw [Block.fieldsIn_outlines] at hfield
  have hwidths : ∀ field ∈ doc.shownFields, answers.width field = other.width field :=
    fun field hmem => Answers.width_eq_of_shown (h field hmem)
  unfold standIn
  rw [fieldNode_eq_of_shown (h field (List.mem_of_getElem? hfield)), Nat.zero_add]
  show (nodes idPrefix other).fieldNode (IdSupply.start.skip _) field = _
  rw [Answers.widthOf_take_congr hwidths]

end Renderer

end

end ProseForms
