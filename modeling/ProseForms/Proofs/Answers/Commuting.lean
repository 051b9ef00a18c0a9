import ProseForms.Proofs.Answers.History

/-!
# Edits from several sources

Two users who fill in one form raise two rows of edits, and the form receives them in
some common order that keeps each row.  Which order that is does not matter as long as
no edit of one row undoes an edit of the other.

* `Edit.Conflicts` says when one edit can undo another.
* `Answers.apply_comm` says that two edits commute if they do not conflict, also when
  each is the first tick under a key that holds a text or nothing.
* `Answers.applyAll_of_interleaving` says that all common orders of two such rows leave
  the same answers.
-/

namespace ProseForms

/-! ## Conflicts -/

/-- Whether of two edits of one key the later undoes the earlier: a text undoes every
edit and is undone by every edit, a tick undoes a tick of the same option. -/
def Edit.Conflicts : Edit → Edit → Prop
  | .tick key option _, .tick key' option' _ => key = key' ∧ option = option'
  | first, second => first.key = second.key

instance : (first second : Edit) → Decidable (first.Conflicts second)
  | .tick .., .tick .. => inferInstanceAs (Decidable (_ ∧ _))
  | .tick .., .text .. => inferInstanceAs (Decidable (_ = _))
  | .text .., _ => inferInstanceAs (Decidable (_ = _))

namespace Answers

variable {answers : Answers}

/-- Ticks of different options under one key give the same set in either order, whatever
the key held before. -/
theorem ticked_apply_comm {key o p : String} (h : o ≠ p) (c d : Bool) :
    (answers.apply (.tick key o c)).ticked key p d =
      (answers.apply (.tick key p d)).ticked key o c := by
  refine Std.ExtTreeSet.ext_mem fun option => ?_
  rw [mem_ticked, mem_ticked, holds_apply_tick, holds_apply_tick]
  by_cases hp : p = option
  · have ho : o ≠ option := fun ho => h (ho.trans hp.symm)
    simp only [if_pos hp, if_neg ho]
  · simp only [if_neg hp]

/-- What an edit leaves under its key is what it leaves after an edit of another key. -/
theorem outcome_apply_of_ne {first second : Edit} (h : first.key ≠ second.key) :
    (answers.apply first).outcome second = answers.outcome second := by
  cases second with
  | text kind key value => rfl
  | tick key option checked =>
      have hget : (answers.apply first).get? key = answers.get? key := get?_apply_of_ne h
      simp only [outcome, ticked, options?, hget]

/-- Two edits of one key that do not conflict leave the same under it in either order. -/
theorem outcome_apply_comm {first second : Edit} (h : ¬ first.Conflicts second)
    (hkeys : first.key = second.key) :
    (answers.apply first).outcome second = (answers.apply second).outcome first := by
  cases first with
  | text kind k value => cases second <;> exact absurd hkeys h
  | tick k o c =>
      cases second with
      | text kind k' value => exact absurd hkeys h
      | tick k' p d =>
          obtain rfl : k = k' := hkeys
          have hoptions : o ≠ p := fun ho => h ⟨rfl, ho⟩
          exact congrArg Answer.multiple (ticked_apply_comm hoptions c d)

/-- Two edits that do not conflict may be applied in either order. -/
theorem apply_comm {first second : Edit} (h : ¬ first.Conflicts second) :
    (answers.apply first).apply second = (answers.apply second).apply first := by
  ext1 key
  simp only [get?_apply]
  by_cases hkeys : first.key = second.key
  · rw [outcome_apply_comm h hkeys, hkeys]
    by_cases hkey : second.key = key
    · simp only [if_pos hkey]
    · simp only [if_neg hkey]
  · rw [outcome_apply_of_ne hkeys, outcome_apply_of_ne (Ne.symm hkeys)]
    by_cases hfirst : first.key = key
    · have hsecond : second.key ≠ key := fun hsecond => hkeys (hfirst.trans hsecond.symm)
      simp only [if_pos hfirst, if_neg hsecond]
    · simp only [if_neg hfirst]

/-- An edit may move behind edits with which it does not conflict. -/
theorem applyAll_apply_comm (edits : List Edit) {edit : Edit}
    (h : ∀ other ∈ edits, ¬ other.Conflicts edit) :
    (answers.apply edit).applyAll edits = (answers.applyAll edits).apply edit := by
  induction edits generalizing answers with
  | nil => rfl
  | cons first rest ih =>
      have hfirst : ¬ first.Conflicts edit := h first List.mem_cons_self
      have hrest : ∀ other ∈ rest, ¬ other.Conflicts edit := fun other hother =>
        h other (List.mem_cons_of_mem first hother)
      calc ((answers.apply edit).apply first).applyAll rest
          = ((answers.apply first).apply edit).applyAll rest := by rw [apply_comm hfirst]
        _ = ((answers.apply first).applyAll rest).apply edit := ih hrest

end Answers

/-! ## Common orders -/

/-- A list that merges two lists and keeps the order of each. -/
inductive Interleaving {α : Type} : List α → List α → List α → Prop
  | nil : Interleaving [] [] []
  | left {item : α} {first second merged : List α} :
      Interleaving first second merged → Interleaving (item :: first) second (item :: merged)
  | right {item : α} {first second merged : List α} :
      Interleaving first second merged → Interleaving first (item :: second) (item :: merged)

namespace Answers

/-- Two rows of edits without conflicts leave the same answers in every common order as one
row after the other. -/
theorem applyAll_of_interleaving (answers : Answers) {first second merged : List Edit}
    (hfree : ∀ edit ∈ first, ∀ other ∈ second, ¬ edit.Conflicts other)
    (h : Interleaving first second merged) :
    answers.applyAll merged = (answers.applyAll first).applyAll second := by
  induction h generalizing answers with
  | nil => rfl
  | @left edit first second merged _ ih =>
      refine ih (answers.apply edit) fun other hother => ?_
      exact hfree other (List.mem_cons_of_mem edit hother)
  | @right edit first second merged _ ih =>
      have hpast : ∀ other ∈ first, ¬ other.Conflicts edit := fun other hother =>
        hfree other hother edit List.mem_cons_self
      have hrest : ∀ other ∈ first, ∀ later ∈ second, ¬ other.Conflicts later :=
        fun other hother later hlater =>
          hfree other hother later (List.mem_cons_of_mem edit hlater)
      calc (answers.apply edit).applyAll merged
          = ((answers.apply edit).applyAll first).applyAll second := ih _ hrest
        _ = ((answers.applyAll first).apply edit).applyAll second := by
            rw [applyAll_apply_comm first hpast]

/-- Two rows of ticks in one group that holds a text so far, one of them with a text of
another field, merged with the second row in front. -/
theorem applyAll_of_interleaving_oneGroup :
    let answers := Answers.empty.apply (.text .plainText "Fruit" "none")
    let first : List Edit := [.tick "Fruit" "Apple" true, .text .date "Day" "1"]
    let second : List Edit := [.tick "Fruit" "Pear" true, .tick "Fruit" "Fig" false]
    let merged : List Edit := [.tick "Fruit" "Pear" true, .tick "Fruit" "Apple" true,
      .tick "Fruit" "Fig" false, .text .date "Day" "1"]
    (∀ edit ∈ first, ∀ other ∈ second, ¬ edit.Conflicts other) ∧
      Interleaving first second merged ∧
      answers.applyAll merged = (answers.applyAll first).applyAll second := by
  intro answers first second merged
  have hfree : ∀ edit ∈ first, ∀ other ∈ second, ¬ edit.Conflicts other := by decide
  have h : Interleaving first second merged := .right (.left (.right (.left .nil)))
  exact ⟨hfree, h, applyAll_of_interleaving answers hfree h⟩

end Answers

end ProseForms
