import ProseForms.Markup.Search

/-!
# The elements of a forest

The elements of a forest in document order, each without its children: an
element comes before the elements below it.  Where the shape of a forest does not
matter, as for ids and bindings, this list is all there is to know of it.

* `exists_head_of_findIn?` and `exists_binding_of_dispatch?` say that a search
  and an action reach an element of the list.
* An `Address` is what other markup refers to in an element.
-/

namespace ProseForms

/-- Making a forest again is making its nodes again, one by one. -/
theorem Node.foldAll_eq_map {N : Type} (builder : Builder N) (nodes : List Node) :
    foldAll builder nodes = nodes.map (fold builder) := by
  induction nodes with
  | nil => rfl
  | cons node rest ih => rw [foldAll, ih, List.map_cons]

theorem Node.fold_element {N : Type} (builder : Builder N) (head : Element)
    (children : List Node) :
    (element head children).fold builder = builder.element head (children.map (fold builder)) :=
  congrArg (builder.element head) (foldAll_eq_map builder children)

/-- Builds the elements of the markup, in document order. -/
def Builder.heads : Builder (List Element) where
  text _ := []
  element head children := head :: children.flatten

namespace Node

/-- The elements of a node, in document order. -/
def heads (node : Node) : List Element :=
  node.fold .heads

/-- The elements of a forest, in document order. -/
def headsIn (nodes : List Node) : List Element :=
  (foldAll .heads nodes).flatten

@[simp] theorem heads_element (head : Element) (children : List Node) :
    (element head children).heads = head :: headsIn children := rfl

@[simp] theorem headsIn_nil : headsIn [] = [] := rfl

@[simp] theorem headsIn_cons (node : Node) (rest : List Node) :
    headsIn (node :: rest) = node.heads ++ headsIn rest := rfl

theorem headsIn_eq_flatMap (nodes : List Node) : headsIn nodes = nodes.flatMap heads := by
  induction nodes with
  | nil => rfl
  | cons node rest ih => rw [headsIn_cons, ih, List.flatMap_cons]

theorem withTagIn_eq_flatMap (tag : Tag) (nodes : List Node) :
    withTagIn tag nodes = nodes.flatMap (withTag tag) := by
  induction nodes with
  | nil => rfl
  | cons node rest ih => rw [withTagIn, ih, List.flatMap_cons]

/-! ## What a search finds -/

mutual

theorem exists_head_of_find? {id : String} {found : Node} :
    ∀ {node : Node}, node.find? id = some found →
      ∃ head ∈ node.heads, found.head? = some head ∧ head.attributes.id = some id
  | text _, h => nomatch h
  | element head children, h => by
      rw [find?] at h
      split at h
      · rename_i hid
        cases h
        exact ⟨head, List.mem_cons_self, rfl, hid⟩
      · obtain ⟨below, hmem, hfound⟩ := exists_head_of_findIn? h
        exact ⟨below, List.mem_cons_of_mem head hmem, hfound⟩
termination_by structural node => node

/-- A search by id finds an element of the forest that has the id. -/
theorem exists_head_of_findIn? {id : String} {found : Node} :
    ∀ {nodes : List Node}, findIn? id nodes = some found →
      ∃ head ∈ headsIn nodes, found.head? = some head ∧ head.attributes.id = some id
  | [], h => nomatch h
  | node :: rest, h => by
      rw [findIn?] at h
      split at h
      · rename_i first hfirst
        cases h
        obtain ⟨head, hmem, hfound⟩ := exists_head_of_find? hfirst
        exact ⟨head, List.mem_append_left _ hmem, hfound⟩
      · obtain ⟨head, hmem, hfound⟩ := exists_head_of_findIn? h
        exact ⟨head, List.mem_append_right _ hmem, hfound⟩
termination_by structural nodes => nodes

end

/-- An edit that an action raises comes from the binding of an element of the
forest that has the id. -/
theorem exists_binding_of_dispatch? {nodes : List Node} {id : String}
    {notification : Notification} {edit : Edit}
    (h : dispatch? nodes id notification = some edit) :
    ∃ head ∈ headsIn nodes, head.attributes.id = some id ∧
      ∃ binding, head.binding = some binding ∧ binding.resolve? notification = some edit := by
  obtain ⟨node, hfound, hnode⟩ := Option.bind_eq_some_iff.1 h
  obtain ⟨binding, hbinding, hedit⟩ := Option.bind_eq_some_iff.1 hnode
  obtain ⟨head, hmem, hhead, hid⟩ := exists_head_of_findIn? hfound
  rw [binding?, hhead] at hbinding
  exact ⟨head, hmem, hid, binding, hbinding, hedit⟩

end Node

/-! ## Addresses -/

/-- What can refer to an element, and what the element refers to. -/
structure Address where
  tag : Tag
  id : Option String
  name : Option String
  forId : Option String
deriving DecidableEq

/-- The address of an element that has an id, a name or the id of a control. -/
def Element.address? (head : Element) : Option Address :=
  match head.attributes.id, head.attributes.name, head.attributes.forId with
  | none, none, none => none
  | id, name, forId => some ⟨head.tag, id, name, forId⟩

/-- The addresses in a node, in document order. -/
def Node.addresses (node : Node) : List Address :=
  node.heads.filterMap Element.address?

/-- The addresses in a forest, in document order. -/
def Node.addressesIn (nodes : List Node) : List Address :=
  (headsIn nodes).filterMap Element.address?

theorem Node.addresses_element (head : Element) (children : List Node) :
    (Node.element head children).addresses =
      head.address?.toList ++ addressesIn children := by
  unfold addresses addressesIn
  rw [heads_element, List.filterMap_cons]
  cases head.address? <;> rfl

@[simp] theorem Node.addressesIn_nil : addressesIn [] = [] := rfl

@[simp] theorem Node.addressesIn_cons (node : Node) (rest : List Node) :
    addressesIn (node :: rest) = node.addresses ++ addressesIn rest := by
  simp [addressesIn, addresses]

theorem Node.addressesIn_eq_flatMap (nodes : List Node) :
    addressesIn nodes = nodes.flatMap addresses := by
  rw [addressesIn, headsIn_eq_flatMap, List.filterMap_flatMap]
  rfl

/-! ## Ids -/

/-- The ids in a forest, in document order, with repetitions. -/
def Node.idsIn (nodes : List Node) : List String :=
  (headsIn nodes).filterMap (·.attributes.id)

/-- The ids of the elements of a forest that are no anchors, in document order, with
repetitions. -/
def Node.controlIdsIn (nodes : List Node) : List String :=
  ((headsIn nodes).filter (·.tag ≠ .a)).filterMap (·.attributes.id)

theorem Element.id_eq_bind_address? (head : Element) :
    head.attributes.id = head.address?.bind Address.id := by
  unfold address?
  split
  · assumption
  · rfl

theorem Element.forId_eq_bind_address? (head : Element) :
    head.attributes.forId = head.address?.bind Address.forId := by
  unfold address?
  split
  · assumption
  · rfl

theorem Element.tag_of_address? {head : Element} {address : Address}
    (h : head.address? = some address) : address.tag = head.tag := by
  unfold address? at h
  split at h
  · cases h
  · cases h
    rfl

theorem Node.idsIn_eq (nodes : List Node) :
    idsIn nodes = (addressesIn nodes).filterMap Address.id := by
  rw [idsIn, addressesIn, List.filterMap_filterMap]
  exact congrArg (List.filterMap · _) (funext Element.id_eq_bind_address?)

theorem Node.controlIdsIn_eq (nodes : List Node) :
    controlIdsIn nodes =
      ((addressesIn nodes).filter (·.tag ≠ .a)).filterMap Address.id := by
  rw [controlIdsIn, addressesIn, List.filterMap_filter, List.filterMap_filter,
    List.filterMap_filterMap]
  refine congrArg (List.filterMap · _) (funext fun head => ?_)
  rw [head.id_eq_bind_address?]
  cases haddress : head.address? with
  | none => simp
  | some address => simp [Element.tag_of_address? haddress]

end ProseForms
