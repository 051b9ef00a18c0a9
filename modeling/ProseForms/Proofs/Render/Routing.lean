import ProseForms.Proofs.Markup.Preorder
import ProseForms.Proofs.Render.Containers
import ProseForms.Proofs.Render.Distinct

/-!
# Which control an action reaches

A label names its control by an id, and so does an action.  Both reach the control that
they are meant for: labels stand beside their controls, and no two controls have one id.
Only the anchor of a link reference can come in between, whose id is whatever its label
says.

* `Node.PairsLabels` says that the labels among the children of a node have their
  controls there too; `Outline.paired_fillAll` carries it from the fields to a filled
  outline.
* `Document.pairsLabels_and_findIn?_render` says where labels stand and which element an
  action reaches.
-/

namespace ProseForms

/-! ## Labels and controls -/

namespace Node

/-- The id of the control that an element is for. -/
def forId? (node : Node) : Option String :=
  node.head?.bind (·.attributes.forId)

/-- An element that the user acts on. -/
def IsControl (node : Node) : Prop :=
  node.tag? = some .input ∨ node.tag? = some .select

instance (node : Node) : Decidable node.IsControl :=
  inferInstanceAs (Decidable (_ ∨ _))

/-- What is for a control stands beside the control, in the container of a field or in the
item of a choice. -/
def PairsLabels (parent : Node) : Prop :=
  ∀ label ∈ parent.children, ∀ id, label.forId? = some id →
    (parent.tag? = some .span ∨ parent.tag? = some .li) ∧
      ∃ control ∈ parent.children, control.IsControl ∧ control.id? = some id

theorem PairsLabels.of_forId? {parent : Node}
    (h : ∀ child ∈ parent.children, child.forId? = none) : parent.PairsLabels := by
  intro label hlabel id hid
  rw [h label hlabel] at hid
  cases hid

/-- All labels in a node stand beside their controls. -/
def Paired (node : Node) : Prop :=
  ∀ parent ∈ node.preorder, parent.PairsLabels

theorem Paired.text (content : String) : (text content).Paired := by
  intro parent hparent
  obtain rfl := List.mem_singleton.1 hparent
  exact .of_forId? fun _ hchild => nomatch hchild

theorem Paired.element {head : Element} {children : List Node}
    (hown : (element head children).PairsLabels) (hbelow : ∀ child ∈ children, child.Paired) :
    (element head children).Paired := by
  intro parent hparent
  rcases List.mem_cons.1 hparent with rfl | hparent
  · exact hown
  · obtain ⟨child, hchild, hmem⟩ := mem_preorderIn.1 hparent
    exact hbelow child hchild parent hmem

/-- An element over children that are for no control. -/
theorem Paired.plain (head : Element) {children : List Node}
    (hforId : ∀ child ∈ children, child.forId? = none)
    (hbelow : ∀ child ∈ children, child.Paired) : (Node.element head children).Paired :=
  .element (.of_forId? hforId) hbelow

theorem Paired.overText (head : Element) (content : String) :
    (Node.element head [.text content]).Paired := by
  refine .plain head (fun child hchild => ?_) fun child hchild => ?_
  · obtain rfl := List.mem_singleton.1 hchild
    rfl
  · obtain rfl := List.mem_singleton.1 hchild
    exact .text content

theorem Paired.empty (head : Element) : (Node.element head []).Paired :=
  .plain head (fun _ hchild => nomatch hchild) fun _ hchild => nomatch hchild

end Node

/-! ## In one field -/

namespace Renderer

variable {idPrefix : String} {answers : Answers}

theorem paired_choiceItem (group inputType : String) (bind : String → Binding) (id : String)
    (choice : String × Bool) :
    ((nodes idPrefix answers).choiceItem group inputType bind id choice).Paired := by
  refine .element (fun label hlabel forId hid => ?_) fun child hchild => ?_
  · rcases List.mem_cons.1 hlabel with rfl | hlabel
    · cases hid
    · obtain rfl := List.mem_singleton.1 hlabel
      exact ⟨Or.inr rfl, _, List.mem_cons_self, Or.inl rfl, hid⟩
  · rcases List.mem_cons.1 hchild with rfl | hchild
    · exact .empty _
    · obtain rfl := List.mem_singleton.1 hchild
      exact .overText _ _

theorem paired_groupNode (group inputType : String) (bind : String → Binding)
    (supply : IdSupply) (shown : List (String × Bool)) :
    ((nodes idPrefix answers).groupNode group inputType bind supply shown).Paired := by
  refine .plain _ (fun item hitem => ?_) fun item hitem => ?_
  · obtain ⟨j, hj, rfl⟩ := List.mem_mapIdx.1 hitem
    rfl
  · obtain ⟨j, hj, rfl⟩ := List.mem_mapIdx.1 hitem
    exact paired_choiceItem _ _ _ _ _

theorem paired_dropDown (id key : String) (options : List String) (default : Option String) :
    ((nodes idPrefix answers).dropDown id key options default).Paired := by
  refine .plain _ (fun option hoption => ?_) fun option hoption => ?_
  · obtain ⟨choice, _, rfl⟩ := List.mem_map.1 hoption
    rfl
  · obtain ⟨choice, _, rfl⟩ := List.mem_map.1 hoption
    exact .overText _ _

theorem paired_controlNode (id key : String) (supply : IdSupply) (control : Control) :
    ((nodes idPrefix answers).controlNode id key supply control).Paired := by
  cases control with
  | textBox kind default => exact .empty _
  | radioButtons default options => exact paired_groupNode _ _ _ _ _
  | checkBoxes flags options => exact paired_groupNode _ _ _ _ _
  | dropDown options default => exact paired_dropDown _ _ _ _

/-- The label of a field is for its control, if that is a single one. -/
theorem pairsLabels_container (id : String) (field : FormField) (supply : IdSupply)
    (control : Control) :
    (Node.element ⟨.span, {}, none⟩ [(nodes idPrefix answers).fieldLabel id field control,
      (nodes idPrefix answers).controlNode id field.label supply control]).PairsLabels := by
  intro label hlabel forId hid
  rcases List.mem_cons.1 hlabel with rfl | hlabel
  · refine ⟨Or.inl rfl, _, List.mem_cons_of_mem _ List.mem_cons_self, ?_⟩
    cases control with
    | textBox kind default => exact ⟨Or.inl rfl, hid⟩
    | dropDown options default => exact ⟨Or.inr rfl, hid⟩
    | radioButtons default options | checkBoxes flags options => cases hid
  · obtain rfl := List.mem_singleton.1 hlabel
    cases control <;> cases hid

theorem paired_fieldNode (supply : IdSupply) (field : FormField) :
    ((nodes idPrefix answers).fieldNode supply field).Paired := by
  cases hcontrol : field.spec.control? with
  | none =>
      rw [fieldNode_eq_text supply hcontrol]
      exact .text _
  | some control =>
      rw [fieldNode_eq_element supply hcontrol]
      refine .element (pairsLabels_container _ field _ control) fun child hchild => ?_
      rcases List.mem_cons.1 hchild with rfl | hchild
      · exact .overText _ _
      · obtain rfl := List.mem_singleton.1 hchild
        exact paired_controlNode _ _ _ _

theorem forId?_fieldNode (supply : IdSupply) (field : FormField) :
    ((nodes idPrefix answers).fieldNode supply field).forId? = none := by
  cases hcontrol : field.spec.control? with
  | none => rw [fieldNode_eq_text supply hcontrol]; rfl
  | some control => rw [fieldNode_eq_element supply hcontrol]; rfl

end Renderer

/-! ## In a whole document -/

namespace Outline

variable {f : Nat → FormField → Node}

theorem forId?_fillAll (hf : ∀ k field, (f k field).forId? = none) {outlines : List Outline}
    (i : Nat) (h : ∀ head ∈ headsIn outlines, head.attributes.forId = none) :
    ∀ node ∈ fillAll .tree f i outlines, node.forId? = none := by
  induction outlines generalizing i with
  | nil => exact fun _ hnode => nomatch hnode
  | cons outline rest ih =>
      intro node hnode
      rcases List.mem_cons.1 hnode with rfl | hnode
      · cases outline with
        | text content => rfl
        | element head children => exact h head List.mem_cons_self
        | slot field => exact hf i field
      · exact ih _ (fun head hhead => h head (List.mem_append_right _ hhead)) node hnode

mutual

theorem paired_fill (hf : ∀ k field, (f k field).forId? = none)
    (hpaired : ∀ k field, (f k field).Paired) :
    ∀ (outline : Outline) (i : Nat), (∀ head ∈ outline.heads, head.attributes.forId = none) →
      (outline.fill .tree f i).Paired
  | .text content, _, _ => .text content
  | .element head children, i, h => by
      have hbelow : ∀ below ∈ headsIn children, below.attributes.forId = none :=
        fun below hmem => h below (List.mem_cons_of_mem head hmem)
      exact .plain head (forId?_fillAll hf i hbelow) (paired_fillAll hf hpaired children i hbelow)
  | .slot field, i, _ => hpaired i field
termination_by structural outline => outline

/-- Labels stand beside their controls in filled markup if they do in its stand-ins, and
if no element of the outline is a label. -/
theorem paired_fillAll (hf : ∀ k field, (f k field).forId? = none)
    (hpaired : ∀ k field, (f k field).Paired) :
    ∀ (outlines : List Outline) (i : Nat),
      (∀ head ∈ headsIn outlines, head.attributes.forId = none) →
      ∀ node ∈ fillAll .tree f i outlines, node.Paired
  | [], _, _, _, hnode => nomatch hnode
  | outline :: rest, i, h, node, hnode => by
      rcases List.mem_cons.1 hnode with rfl | hnode
      · exact paired_fill hf hpaired outline i fun head hhead =>
          h head (List.mem_append_left _ hhead)
      · exact paired_fillAll hf hpaired rest _
          (fun head hhead => h head (List.mem_append_right _ hhead)) node hnode
termination_by structural outlines => outlines

end

end Outline

/-- No element that some blocks contribute is for a control. -/
theorem Block.forId_of_mem_headsIn_outlines {head : Element} {blocks : List Block}
    (h : head ∈ Outline.headsIn (Block.outlines blocks)) : head.attributes.forId = none := by
  rw [head.forId_eq_bind_address?]
  cases haddress : head.address? with
  | none => rfl
  | some address =>
      have hmem := List.mem_filterMap.2 ⟨head, h, haddress⟩
      rw [Block.addresses_outlines] at hmem
      obtain ⟨label, _, rfl⟩ := List.mem_map.1 hmem
      rfl

namespace Document

variable (idPrefix : String) (answers : Answers) (doc : Document)

/-- The controls of a rendered document have distinct ids. -/
theorem nodup_controlIdsIn_render (h : answers.widthOf doc.shownFields < UInt32.size) :
    (Node.controlIdsIn (doc.render idPrefix answers)).Nodup :=
  (controlIdsIn_render_perm idPrefix answers doc h).nodup_iff.2
    (numberedIn_fieldAddresses idPrefix answers doc h).nodup

/-- Labels stand beside their controls.  A control is the first element with its id, so
that a search finds it and an action on it raises what its own binding says, unless the
anchor of a link reference with the id comes first. -/
theorem pairsLabels_and_findIn?_render (h : answers.widthOf doc.shownFields < UInt32.size) :
    let forest := doc.render idPrefix answers
    (∀ node ∈ forest, node.forId? = none) ∧
    (∀ parent ∈ Node.preorderIn forest, parent.PairsLabels) ∧
    ∀ before control after id, Node.preorderIn forest = before ++ control :: after →
      control.IsControl → control.id? = some id →
      (∀ node ∈ before, node.tag? = some .a → node.id? ≠ some id) →
        (∀ node ∈ before, node.id? ≠ some id) ∧
        Node.findIn? id forest = some control ∧
        ∀ notification, Node.dispatch? forest id notification =
          control.binding?.bind (·.resolve? notification) := by
  intro forest
  have hforest : forest = _ := Renderer.render_eq_fillAll idPrefix answers doc
  refine ⟨?_, ?_, fun before control after id hnodes hcontrol hid hanchors => ?_⟩
  · rw [hforest]
    exact Outline.forId?_fillAll (fun _ => Renderer.forId?_fieldNode _) 0
      fun _ => Block.forId_of_mem_headsIn_outlines
  · intro parent hparent
    obtain ⟨node, hnode, hmem⟩ := Node.mem_preorderIn.1 hparent
    rw [hforest] at hnode
    exact Outline.paired_fillAll (fun _ => Renderer.forId?_fieldNode _)
      (fun _ => Renderer.paired_fieldNode _) _ 0
      (fun _ => Block.forId_of_mem_headsIn_outlines) node hnode parent hmem
  · have htag : control.tag? ≠ some .a := by
      rcases hcontrol with htag | htag <;> rw [htag] <;> decide
    -- Anchors before the control have other ids by assumption, and elements that are no
    -- anchors because their ids are all distinct.
    have hbefore : ∀ node ∈ before, node.id? ≠ some id := by
      intro node hnode
      by_cases hanchor : node.tag? = some .a
      · exact hanchors node hnode hanchor
      · exact Node.id?_ne_of_nodup (nodup_controlIdsIn_render idPrefix answers doc h) hnodes htag
          hid hnode hanchor
    exact ⟨hbefore, Node.findIn?_of_first hnodes hid hbefore⟩

/-- A radio button stands between an anchor with the name of its group and an anchor with
its own id. -/
theorem dispatch?_render_radioButton :
    let doc : Document := ⟨[.linkReference "p-1" "u", .blockquote [.paragraph [.formField
      ⟨"Size", true, .radioButtons (.literal "S") (.literal ["M"])⟩]],
      .linkReference "p-3" "v"]⟩
    let forest := doc.render "p" .empty
    let before := (Node.preorderIn forest).take 15
    let control : Node := .element {
      tag := .input
      attributes := {
        id := some "p-3", name := some "p-1", inputType := some "radio", value := some "M" }
      binding := some (.choose "Size" "M") } []
    Answers.empty.widthOf doc.shownFields < UInt32.size ∧
      (∀ node ∈ before, node.tag? = some .a → node.id? ≠ some "p-3") ∧
      Node.findIn? "p-3" forest = some control ∧
      Node.dispatch? forest "p-3" (.checked true) = some (.text .plainText "Size" "M") := by
  intro doc forest before control
  have hroom : Answers.empty.widthOf doc.shownFields < UInt32.size := by decide
  have hnodes : Node.preorderIn forest =
      before ++ control :: (Node.preorderIn forest).drop 16 := by decide
  have hanchors : ∀ node ∈ before, node.tag? = some .a → node.id? ≠ some "p-3" := by decide
  obtain ⟨_, _, hroutes⟩ := pairsLabels_and_findIn?_render "p" .empty doc hroom
  obtain ⟨_, hfind, hdispatch⟩ := hroutes before control _ "p-3" hnodes (by decide) rfl hanchors
  exact ⟨hroom, hanchors, hfind, hdispatch (.checked true)⟩

end Document

end ProseForms
