import ProseForms.Proofs.Markup.Heads

/-!
# The nodes of a forest in document order

A node comes before its children, and those come before the siblings after it.  Searches
and actions on markup follow this order, so each of them is a search of one list.

* `headsIn_eq_filterMap` says that the elements of a forest are those of the list.
* `findIn?_eq_find?` says that a search by id finds the first node of the list with the
  id, and `findIn?_of_first` that it finds a node which no other with the id precedes.
* `withTag_eq_filter` and `textContent_eq_join` read the elements with a tag and the texts
  off the list, and `walks_eq_preorder` collects what every walk finds.
-/

namespace ProseForms.Node

mutual

/-- A node and the nodes below it, in document order. -/
def preorder : Node → List Node
  | text content => [text content]
  | element head children => element head children :: preorderIn children
termination_by structural node => node

/-- The nodes of a forest, in document order. -/
def preorderIn : List Node → List Node
  | [] => []
  | node :: rest => node.preorder ++ preorderIn rest
termination_by structural nodes => nodes

end

@[simp] theorem preorder_text (content : String) : (text content).preorder = [text content] :=
  rfl

@[simp] theorem preorder_element (head : Element) (children : List Node) :
    (element head children).preorder = element head children :: preorderIn children := rfl

@[simp] theorem preorderIn_nil : preorderIn [] = [] := rfl

@[simp] theorem preorderIn_cons (node : Node) (rest : List Node) :
    preorderIn (node :: rest) = node.preorder ++ preorderIn rest := rfl

theorem mem_preorderIn {node : Node} {nodes : List Node} :
    node ∈ preorderIn nodes ↔ ∃ root ∈ nodes, node ∈ root.preorder := by
  induction nodes with
  | nil => simp
  | cons root rest ih => simp [ih]

mutual

theorem heads_eq_filterMap : ∀ node : Node, node.heads = node.preorder.filterMap head?
  | text _ => rfl
  | element head children => congrArg (head :: ·) (headsIn_eq_filterMap children)
termination_by structural node => node

/-- The elements of a forest are those of its nodes. -/
theorem headsIn_eq_filterMap :
    ∀ nodes : List Node, headsIn nodes = (preorderIn nodes).filterMap head?
  | [] => rfl
  | node :: rest => by
      rw [headsIn_cons, preorderIn_cons, List.filterMap_append, heads_eq_filterMap node,
        headsIn_eq_filterMap rest]
termination_by structural nodes => nodes

end

/-! ## Searches -/

mutual

theorem find?_eq_find? (id : String) :
    ∀ node : Node, node.find? id = node.preorder.find? fun found => found.id? = some id
  | text _ => rfl
  | element head children => by
      rw [find?, preorder_element, List.find?_cons, findIn?_eq_find? id children]
      show _ = match decide (head.attributes.id = some id) with | true => _ | false => _
      by_cases hid : head.attributes.id = some id <;> simp [hid]
termination_by structural node => node

/-- A search by id finds the first node with the id. -/
theorem findIn?_eq_find? (id : String) :
    ∀ nodes : List Node,
      findIn? id nodes = (preorderIn nodes).find? fun found => found.id? = some id
  | [] => rfl
  | node :: rest => by
      rw [findIn?, preorderIn_cons, List.find?_append, find?_eq_find? id node,
        findIn?_eq_find? id rest]
      cases node.preorder.find? fun found => found.id? = some id <;> rfl
termination_by structural nodes => nodes

end

/-- A search by id finds a node that no node with the id precedes, and an action on the id
is up to the binding of that node. -/
theorem findIn?_of_first {nodes before after : List Node} {node : Node} {id : String}
    (hnodes : preorderIn nodes = before ++ node :: after) (hid : node.id? = some id)
    (hbefore : ∀ other ∈ before, other.id? ≠ some id) :
    findIn? id nodes = some node ∧ ∀ notification,
      dispatch? nodes id notification = node.binding?.bind (·.resolve? notification) := by
  have hfind : findIn? id nodes = some node := by
    rw [findIn?_eq_find?, List.find?_eq_some_iff_append]
    exact ⟨by simpa using hid, before, after, hnodes, by simpa using hbefore⟩
  refine ⟨hfind, fun notification => ?_⟩
  rw [dispatch?, hfind, Option.bind_some]

/-! ## Tags and texts -/

mutual

/-- The elements with a tag are those of the list, in the order of the list. -/
theorem withTag_eq_filter (tag : Tag) :
    ∀ node : Node, node.withTag tag = node.preorder.filter fun found => found.tag? = some tag
  | text _ => rfl
  | element head children => by
      have htag : (element head children).tag? = some head.tag := rfl
      rw [withTag, preorder_element, List.filter_cons, withTagIn_eq_filter tag children, htag]
      by_cases h : head.tag = tag <;> simp [h]
termination_by structural node => node

theorem withTagIn_eq_filter (tag : Tag) :
    ∀ nodes : List Node,
      withTagIn tag nodes = (preorderIn nodes).filter fun found => found.tag? = some tag
  | [] => rfl
  | node :: rest => by
      rw [withTagIn, preorderIn_cons, List.filter_append, withTag_eq_filter tag node,
        withTagIn_eq_filter tag rest]
termination_by structural nodes => nodes

end

/-- The content of a text. -/
def text? : Node → Option String
  | text content => some content
  | element .. => none

mutual

/-- The texts in a node are those of the list, one after the other. -/
theorem textContent_eq_join :
    ∀ node : Node, node.textContent = String.join (node.preorder.filterMap text?)
  | text content => by
      show content = String.join [content]
      rw [String.join_cons, String.join_nil, String.append_empty]
  | element head children => by
      show textContentOf children = String.join ((preorderIn children).filterMap text?)
      exact textContentOf_eq_join children
termination_by structural node => node

theorem textContentOf_eq_join :
    ∀ nodes : List Node,
      textContentOf nodes = String.join ((preorderIn nodes).filterMap text?)
  | [] => rfl
  | node :: rest => by
      rw [textContentOf, preorderIn_cons, List.filterMap_append, String.join_append,
        textContent_eq_join node, textContentOf_eq_join rest]
termination_by structural nodes => nodes

end

/-- Every walk through markup is a walk along the list of its nodes.  A search by id finds
the first node of the list that has the id, an action on the id is up to the binding of this
node and of no other, the elements with a tag are picked from the list, and the text of a
node is that of the texts in the list. -/
theorem walks_eq_preorder (nodes : List Node) (id : String) :
    let first? := (preorderIn nodes).find? fun node => node.id? = some id
    findIn? id nodes = first? ∧
      (∀ notification, dispatch? nodes id notification =
        first?.bind fun node => node.binding?.bind (·.resolve? notification)) ∧
      (∀ (node : Node) (tag : Tag),
        node.withTag tag = node.preorder.filter fun found => found.tag? = some tag) ∧
      ∀ node : Node, node.textContent = String.join (node.preorder.filterMap text?) := by
  intro first?
  have hfind : findIn? id nodes = first? := findIn?_eq_find? id nodes
  refine ⟨hfind, fun notification => ?_, fun node tag => withTag_eq_filter tag node,
    textContent_eq_join⟩
  rw [dispatch?, hfind]

/-- A control with the id of an element around it is out of reach of actions. -/
example :
    let control : Node := .element ⟨.input, { id := some "a" }, some (.change "Size")⟩ []
    let around : Node := .element ⟨.p, { id := some "a" }, none⟩ [control]
    dispatch? [control] "a" (.change "M") = some (.text .plainText "Size" "M") ∧
      dispatch? [around, control] "a" (.change "M") = none := by
  decide

/-! ## Ids that occur once -/

theorem controlIdsIn_eq_filterMap (nodes : List Node) :
    controlIdsIn nodes = (preorderIn nodes).filterMap fun node =>
      if node.tag? = some .a then none else node.id? := by
  rw [controlIdsIn, headsIn_eq_filterMap, List.filterMap_filter, List.filterMap_filterMap]
  refine congrArg (List.filterMap · _) (funext fun node => ?_)
  cases node with
  | text content => rfl
  | element head children =>
      by_cases htag : head.tag = .a <;> simp [htag, head?, tag?, id?]

/-- If the ids of the elements that are no anchors are distinct, then only an anchor can
have the id of such an element and stand before it. -/
theorem id?_ne_of_nodup {nodes before after : List Node} {node other : Node} {id : String}
    (hnodup : (controlIdsIn nodes).Nodup) (hnodes : preorderIn nodes = before ++ node :: after)
    (htag : node.tag? ≠ some .a) (hid : node.id? = some id) (hother : other ∈ before)
    (htag' : other.tag? ≠ some .a) : other.id? ≠ some id := by
  intro hid'
  rw [controlIdsIn_eq_filterMap, hnodes, List.filterMap_append, List.nodup_append] at hnodup
  obtain ⟨_, _, hdisjoint⟩ := hnodup
  refine hdisjoint id ?_ id ?_ rfl
  · exact List.mem_filterMap.2 ⟨other, hother, by rw [if_neg htag', hid']⟩
  · exact List.mem_filterMap.2 ⟨node, List.mem_cons_self, by rw [if_neg htag, hid]⟩

end ProseForms.Node
