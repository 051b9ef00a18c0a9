import Mathlib.Data.List.Basic
import Mathlib.Data.List.Induction
import ProseForms.Document.Fields

/-!
# Document order

A position leads from a document to one of its form fields.  Each of its numbers says
how many siblings stand before the one to go into, from the outermost block to the
innermost inline.  Positions are compared number by number, so that left comes before
right at the first level at which two of them part: this is document order.

* `Document.fieldAt?` looks up the form field at a position.  It goes into quotes, list
  items, emphasis, links and the bodies of images.
* `Document.enumerates_fields` says that the form fields of a document are those at its
  positions, each once and in ascending order.
* `Enumerates.getLast?_eq_some_iff` turns "the last in the list" into "the one with none
  after it".
-/

namespace ProseForms

/-! ## Fields by position -/

/-- The form field at a position in an inline. -/
def Inline.fieldAt? : Inline → List Nat → Option FormField
  | .formField field, [] => some field
  | .emph body, i :: position | .strong body, i :: position | .link body _, i :: position
  | .image body _, i :: position => body[i]?.bind (·.fieldAt? position)
  | _, _ => none

/-- The form field at a position in a block.  In a list the first number is for the item
and the second for the block in it. -/
def Block.fieldAt? : Block → List Nat → Option FormField
  | .paragraph body, i :: position | .header _ body, i :: position =>
      body[i]?.bind (·.fieldAt? position)
  | .blockquote body, i :: position => body[i]?.bind (·.fieldAt? position)
  | .list _ items, i :: j :: position =>
      items[i]?.bind fun item => item[j]?.bind (·.fieldAt? position)
  | _, _ => none

/-- The form field at a position in a document. -/
def Document.fieldAt? (doc : Document) : List Nat → Option FormField
  | [] => none
  | i :: position => doc.blocks[i]?.bind (·.fieldAt? position)

/-! ## Look-ups that run through a list -/

/-- The positions at which a look-up finds a field, in ascending order, lead to these
fields. -/
def Enumerates (at? : List Nat → Option FormField) (fields : List FormField) : Prop :=
  ∃ positions : List (List Nat), positions.Pairwise (· < ·) ∧
    (∀ position, position ∈ positions ↔ (at? position).isSome = true) ∧
    positions.filterMap at? = fields

theorem enumerates_nothing {at? : List Nat → Option FormField}
    (h : ∀ position, at? position = none) : Enumerates at? [] :=
  ⟨[], .nil, fun position => by simp [h position], rfl⟩

/-- The look-up in some items: the first number says which of them to go into. -/
def fieldAmong? {α : Type} (at? : α → List Nat → Option FormField) (items : List α) :
    List Nat → Option FormField
  | [] => none
  | i :: position => items[i]?.bind (at? · position)

/-- A position among some items, when another item is put before them. -/
def nextSibling : List Nat → List Nat
  | [] => []
  | i :: position => (i + 1) :: position

theorem nextSibling_lt {p q : List Nat} (h : p < q) : nextSibling p < nextSibling q := by
  cases p with
  | nil =>
      cases q with
      | nil => exact h
      | cons j q => exact List.nil_lt_cons _ _
  | cons i p =>
      cases q with
      | nil => exact absurd h (List.not_lt_nil _)
      | cons j q =>
          rcases List.cons_lt_cons_iff.1 h with hlt | ⟨rfl, hlt⟩
          · exact List.cons_lt_cons_iff.2 (Or.inl (Nat.succ_lt_succ hlt))
          · exact List.cons_lt_cons_iff.2 (Or.inr ⟨rfl, hlt⟩)

/-- Two look-ups that find the same fields run through the same. -/
theorem Enumerates.congr {at? other : List Nat → Option FormField} {fields : List FormField}
    (h : Enumerates at? fields) (hat : ∀ position, other position = at? position) :
    Enumerates other fields :=
  funext hat ▸ h

/-- An item in front of others: the positions in it come before the positions in them. -/
theorem Enumerates.cons {α : Type} {at? : α → List Nat → Option FormField} {item : α}
    {rest : List α} {fields others : List FormField} (hitem : Enumerates (at? item) fields)
    (hrest : Enumerates (fieldAmong? at? rest) others) :
    Enumerates (fieldAmong? at? (item :: rest)) (fields ++ others) := by
  obtain ⟨first, hfirst, hmem, rfl⟩ := hitem
  obtain ⟨later, hlater, hmem', rfl⟩ := hrest
  have hcons : ∀ {q}, q ∈ later → ∃ j position, q = j :: position := by
    intro q hq
    cases q with
    | nil => cases (hmem' []).1 hq
    | cons j position => exact ⟨j, position, rfl⟩
  have hnext : ∀ q ∈ later,
      fieldAmong? at? (item :: rest) (nextSibling q) = fieldAmong? at? rest q := by
    intro q hq
    obtain ⟨j, position, rfl⟩ := hcons hq
    rfl
  refine ⟨first.map (0 :: ·) ++ later.map nextSibling, ?_, fun position => ?_, ?_⟩
  · refine List.pairwise_append.2 ⟨?_, ?_, fun p hp q hq => ?_⟩
    · exact List.pairwise_map.2
        (hfirst.imp fun hlt => List.cons_lt_cons_iff.2 (Or.inr ⟨rfl, hlt⟩))
    · exact List.pairwise_map.2 (hlater.imp nextSibling_lt)
    · obtain ⟨_, _, rfl⟩ := List.mem_map.1 hp
      obtain ⟨_, hother, rfl⟩ := List.mem_map.1 hq
      obtain ⟨j, position, rfl⟩ := hcons hother
      exact List.cons_lt_cons_iff.2 (Or.inl (Nat.succ_pos j))
  · rw [List.mem_append, List.mem_map, List.mem_map]
    constructor
    · rintro (⟨p, hp, rfl⟩ | ⟨q, hq, rfl⟩)
      · exact (hmem p).1 hp
      · rw [hnext q hq]
        exact (hmem' q).1 hq
    · intro hsome
      rcases position with _ | ⟨_ | j, p⟩
      · cases hsome
      · exact Or.inl ⟨p, (hmem p).2 hsome, rfl⟩
      · exact Or.inr ⟨j :: p, (hmem' (j :: p)).2 hsome, rfl⟩
  · rw [List.filterMap_append, List.filterMap_map, List.filterMap_map]
    exact congrArg (_ ++ ·) (List.filterMap_congr hnext)

/-- Along ascending positions, the last value is the one at a position after which there is
none. -/
theorem getLast?_filterMap_eq_some_iff {β : Type} {positions : List (List Nat)}
    (h : positions.Pairwise (· < ·)) (valueAt? : List Nat → Option β) (value : β) :
    (positions.filterMap valueAt?).getLast? = some value ↔
      ∃ position ∈ positions, valueAt? position = some value ∧
        ∀ later ∈ positions, position < later → valueAt? later = none := by
  induction positions using List.reverseRecOn with
  | nil => simp
  | append_singleton positions last ih =>
      obtain ⟨hpositions, -, hlast⟩ := List.pairwise_append.1 h
      have hbefore : ∀ p ∈ positions, p < last := fun p hp =>
        hlast p hp last (List.mem_singleton_self last)
      have hafter : ∀ later ∈ positions ++ [last], ¬last < later := by
        intro later hlater hlt
        rcases List.mem_append.1 hlater with hlater | hlater
        · exact List.lt_asymm hlt (hbefore later hlater)
        · obtain rfl := List.mem_singleton.1 hlater
          exact List.lt_irrefl _ hlt
      cases hvalue : valueAt? last with
      | none =>
          -- The last position has no value and can be left out on both sides.
          rw [List.filterMap_append, List.filterMap_cons_none hvalue, List.filterMap_nil,
            List.append_nil, ih hpositions]
          constructor
          · rintro ⟨p, hp, hsome, hnone⟩
            refine ⟨p, List.mem_append_left _ hp, hsome, fun later hlater hlt => ?_⟩
            rcases List.mem_append.1 hlater with hlater | hlater
            · exact hnone later hlater hlt
            · rw [List.mem_singleton.1 hlater, hvalue]
          · rintro ⟨p, hp, hsome, hnone⟩
            rcases List.mem_append.1 hp with hp | hp
            · exact ⟨p, hp, hsome, fun later hlater =>
                hnone later (List.mem_append_left _ hlater)⟩
            · rw [List.mem_singleton.1 hp, hvalue] at hsome
              cases hsome
      | some held =>
          rw [List.filterMap_append, List.filterMap_cons_some hvalue, List.filterMap_nil,
            List.getLast?_concat, Option.some.injEq]
          constructor
          · rintro rfl
            exact ⟨last, List.mem_append_right _ (List.mem_singleton_self last), hvalue,
              fun later hlater hlt => absurd hlt (hafter later hlater)⟩
          · rintro ⟨p, hp, hsome, hnone⟩
            rcases List.mem_append.1 hp with hp | hp
            · have hlost := hnone last
                (List.mem_append_right _ (List.mem_singleton_self last)) (hbefore p hp)
              rw [hvalue] at hlost
              cases hlost
            · rw [List.mem_singleton.1 hp, hvalue] at hsome
              exact Option.some.inj hsome

/-- The last of the values that a view finds in some fields is the one at a position after
which it finds none. -/
theorem Enumerates.getLast?_eq_some_iff {β : Type} {at? : List Nat → Option FormField}
    {fields : List FormField} (h : Enumerates at? fields) (view : FormField → Option β)
    (value : β) :
    (fields.filterMap view).getLast? = some value ↔
      ∃ position field, at? position = some field ∧ view field = some value ∧
        ∀ later other, at? later = some other → position < later → view other = none := by
  obtain ⟨positions, hsorted, hmem, rfl⟩ := h
  have hfound : ∀ {position field}, at? position = some field → position ∈ positions :=
    fun hfield => (hmem _).2 (hfield ▸ rfl)
  rw [List.filterMap_filterMap, getLast?_filterMap_eq_some_iff hsorted]
  constructor
  · rintro ⟨position, -, hvalue, hnone⟩
    obtain ⟨field, hfield, hview⟩ := Option.bind_eq_some_iff.1 hvalue
    refine ⟨position, field, hfield, hview, fun later other hother hlt => ?_⟩
    have hlater := hnone later (hfound hother) hlt
    rwa [hother] at hlater
  · rintro ⟨position, field, hfield, hview, hnone⟩
    refine ⟨position, hfound hfield, Option.bind_eq_some_iff.2 ⟨field, hfield, hview⟩,
      fun later _ hlt => ?_⟩
    refine Option.bind_eq_none_iff.2 fun other hother => hnone later other hother hlt

theorem Enumerates.mem_iff {at? : List Nat → Option FormField} {fields : List FormField}
    (h : Enumerates at? fields) {field : FormField} :
    field ∈ fields ↔ ∃ position, at? position = some field := by
  obtain ⟨positions, -, hmem, rfl⟩ := h
  rw [List.mem_filterMap]
  constructor
  · rintro ⟨position, -, hat⟩
    exact ⟨position, hat⟩
  · rintro ⟨position, hat⟩
    exact ⟨position, (hmem position).2 (hat ▸ rfl), hat⟩

/-! ## The fields of a document -/

mutual

theorem Inline.enumerates_fields :
    ∀ inline : Inline, Enumerates inline.fieldAt? inline.fields
  | .formField field => by
      refine ⟨[[]], List.pairwise_singleton _ _, fun position => ?_, rfl⟩
      cases position <;> simp [Inline.fieldAt?]
  | .emph body | .strong body | .link body _ | .image body _ => by
      refine (Inline.enumerates_fieldsOf body).congr fun position => ?_
      cases position <;> rfl
  | .str _ | .entity _ | .space | .softBreak | .lineBreak | .code _ =>
      enumerates_nothing fun position => by cases position <;> rfl
termination_by structural inline => inline

theorem Inline.enumerates_fieldsOf :
    ∀ inlines : List Inline,
      Enumerates (fieldAmong? Inline.fieldAt? inlines) (Inline.fieldsOf inlines)
  | [] => enumerates_nothing fun position => by cases position <;> rfl
  | inline :: rest =>
      (Inline.enumerates_fields inline).cons (Inline.enumerates_fieldsOf rest)
termination_by structural inlines => inlines

end

mutual

theorem Block.enumerates_fields : ∀ block : Block, Enumerates block.fieldAt? block.fields
  | .paragraph body | .header _ body => by
      refine (Inline.enumerates_fieldsOf body).congr fun position => ?_
      cases position <;> rfl
  | .blockquote body => by
      refine (Block.enumerates_fieldsOf body).congr fun position => ?_
      cases position <;> rfl
  | .list _ items => by
      refine (Block.enumerates_fieldsOfItems items).congr fun position => ?_
      rcases position with _ | ⟨i, _ | ⟨j, position⟩⟩
      · rfl
      · cases hitem : items[i]? <;> simp [Block.fieldAt?, fieldAmong?, hitem]
      · rfl
  | .codeBlock _ | .linkReference .. | .rule =>
      enumerates_nothing fun position => by rcases position with _ | ⟨_, _ | _⟩ <;> rfl
termination_by structural block => block

theorem Block.enumerates_fieldsOf :
    ∀ blocks : List Block,
      Enumerates (fieldAmong? Block.fieldAt? blocks) (Block.fieldsOf blocks)
  | [] => enumerates_nothing fun position => by cases position <;> rfl
  | block :: rest => (Block.enumerates_fields block).cons (Block.enumerates_fieldsOf rest)
termination_by structural blocks => blocks

theorem Block.enumerates_fieldsOfItems :
    ∀ items : List (List Block),
      Enumerates (fieldAmong? (fieldAmong? Block.fieldAt?) items) (Block.fieldsOfItems items)
  | [] => enumerates_nothing fun position => by cases position <;> rfl
  | item :: rest =>
      (Block.enumerates_fieldsOf item).cons (Block.enumerates_fieldsOfItems rest)
termination_by structural items => items

end

/-- The form fields of a document are those at its positions, in document order. -/
theorem Document.enumerates_fields (doc : Document) : Enumerates doc.fieldAt? doc.fields := by
  refine (Block.enumerates_fieldsOf doc.blocks).congr fun position => ?_
  cases position <;> rfl

end ProseForms
