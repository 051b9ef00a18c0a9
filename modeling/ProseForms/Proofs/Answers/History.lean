import Mathlib.Data.List.DropRight
import Mathlib.Data.List.Induction
import ProseForms.Answers.Basic

/-!
# What a history of edits leaves under a key

The answers after some edits are a fold of single edits.  This module gives the
fold in closed form: what is held under a key depends on the edits of that key
alone, and is read off the last text and the ticks that follow it.

There are three groups.

* One edit.  `get?_apply` and `mem_ticked` say what it leaves under a key and
  in a set of options.
* The history of a key.  `Edit.about` keeps the edits of one key, and
  `Edit.sinceText` the ticks that no later text throws away.
* The closed form.  `holds_applyAll_iff` is about single options and
  `get?_applyAll` about the whole answer.
-/

namespace ProseForms

namespace Edit

/-- Whether an edit ticks or clears an option. -/
def isTick : Edit → Bool
  | text .. => false
  | tick .. => true

/-- Whether an edit ticks or clears one particular option. -/
def ticks (option : String) : Edit → Bool
  | text .. => false
  | tick _ o _ => o = option

/-- The edits of one key, in order. -/
def about (key : String) (edits : List Edit) : List Edit :=
  edits.filter fun edit => edit.key = key

/-- The edits after the last text, or all of them when there is no text. -/
def sinceText (edits : List Edit) : List Edit :=
  edits.rtakeWhile isTick

theorem about_concat_self {edits : List Edit} {edit : Edit} {key : String}
    (h : edit.key = key) : about key (edits ++ [edit]) = about key edits ++ [edit] := by
  simp [about, List.filter_append, h]

theorem about_concat_of_ne {edits : List Edit} {edit : Edit} {key : String}
    (h : edit.key ≠ key) : about key (edits ++ [edit]) = about key edits := by
  simp [about, List.filter_append, h]

@[simp] theorem sinceText_concat_text (edits : List Edit) (kind : InputKind)
    (key value : String) : sinceText (edits ++ [.text kind key value]) = [] :=
  List.rtakeWhile_concat_neg isTick edits _ (by simp [isTick])

@[simp] theorem sinceText_concat_tick (edits : List Edit) (key option : String)
    (checked : Bool) :
    sinceText (edits ++ [.tick key option checked]) =
      sinceText edits ++ [.tick key option checked] :=
  List.rtakeWhile_concat_pos isTick edits _ (by simp [isTick])

end Edit

namespace Answers

/-! ## One edit -/

/-- What an edit leaves under its own key. -/
def outcome (answers : Answers) : Edit → Answer
  | .text kind _ value => .single kind value
  | .tick key option checked => .multiple (answers.ticked key option checked)

theorem get?_apply (answers : Answers) (edit : Edit) (key : String) :
    (answers.apply edit).get? key =
      if edit.key = key then some (answers.outcome edit) else answers.get? key := by
  cases edit with
  | text kind k value => exact get?_insert answers k key _
  | tick k option checked => exact get?_insert answers k key _

@[simp] theorem text?_apply_text (answers : Answers) (kind : InputKind) (key text : String) :
    (answers.apply (.text kind key text)).text? key = some text := by
  simp [text?, apply, get?_insert, Answer.text?]

@[simp] theorem options?_apply_text (answers : Answers) (kind : InputKind)
    (key text : String) : (answers.apply (.text kind key text)).options? key = none := by
  simp [options?, apply, get?_insert, Answer.options?]

@[simp] theorem text?_apply_tick (answers : Answers) (key option : String) (checked : Bool) :
    (answers.apply (.tick key option checked)).text? key = none := by
  simp [text?, apply, get?_insert, Answer.text?]

@[simp] theorem options?_apply_tick (answers : Answers) (key option : String)
    (checked : Bool) :
    (answers.apply (.tick key option checked)).options? key =
      some (answers.ticked key option checked) := by
  simp [options?, apply, get?_insert, Answer.options?]

/-- Whether an option is ticked in the set held under a key, if a set is held. -/
def Holds (answers : Answers) (key option : String) : Prop :=
  ∃ held, answers.get? key = some (.multiple held) ∧ option ∈ held

theorem holds_congr {a b : Answers} {key : String} (h : a.get? key = b.get? key)
    (option : String) : a.Holds key option ↔ b.Holds key option := by
  simp only [Holds, h]

theorem holds_iff_of_get? {answers : Answers} {key option : String} {held : OptionSet}
    (h : answers.get? key = some (.multiple held)) :
    answers.Holds key option ↔ option ∈ held := by
  simp [Holds, h]

/-- The options that a tick starts from are those that are held. -/
theorem mem_options?_getD (answers : Answers) (key option : String) :
    option ∈ (answers.options? key).getD ∅ ↔ answers.Holds key option := by
  unfold options? Holds
  cases answers.get? key with
  | none => simp
  | some answer => cases answer <;> simp [Answer.options?]

/-- A tick decides about its own option and keeps the others as they are held. -/
theorem mem_ticked (answers : Answers) (key option o : String) (checked : Bool) :
    o ∈ answers.ticked key option checked ↔
      if option = o then checked = true else answers.Holds key o := by
  have heq : compare option o = .eq ↔ option = o := Std.LawfulEqCmp.compare_eq_iff_eq
  rw [← mem_options?_getD]
  by_cases ho : option = o <;> cases checked <;>
    simp [ticked, Std.ExtTreeSet.mem_insert, Std.ExtTreeSet.mem_erase, heq, ho]

theorem contains_ticked (answers : Answers) (key option o : String) (checked : Bool) :
    (answers.ticked key option checked).contains o =
      if o = option then checked else ((answers.options? key).getD ∅).contains o := by
  rw [Bool.eq_iff_iff, Std.ExtTreeSet.contains_iff_mem, mem_ticked, ← mem_options?_getD]
  by_cases ho : o = option
  · simp [ho]
  · simp [ho, Ne.symm ho]

theorem not_holds_apply_text (answers : Answers) (kind : InputKind)
    (key value option : String) :
    ¬ (answers.apply (.text kind key value)).Holds key option := by
  have hget : (answers.apply (.text kind key value)).get? key = some (.single kind value) := by
    rw [get?_apply]
    exact if_pos rfl
  simp [Holds, hget]

theorem holds_apply_tick (answers : Answers) (key o option : String) (checked : Bool) :
    (answers.apply (.tick key o checked)).Holds key option ↔
      if o = option then checked = true else answers.Holds key option := by
  have hget : (answers.apply (.tick key o checked)).get? key =
      some (.multiple (answers.ticked key o checked)) := by
    rw [get?_apply]
    exact if_pos rfl
  rw [holds_iff_of_get? hget, mem_ticked]

/-! ## The closed form -/

/-- Whether an option ends up ticked after a history of edits of one key: the last
tick of it since the last text decides; when there is no such tick and no text,
the set that was held before the history. -/
def TickedAfter (answers : Answers) (key : String) (history : List Edit) (option : String) :
    Prop :=
  let recent := (Edit.sinceText history).filter (Edit.ticks option)
  recent.getLast? = some (.tick key option true) ∨
    recent = [] ∧ (∀ edit ∈ history, edit.isTick) ∧ answers.Holds key option

theorem not_tickedAfter_concat_text (answers : Answers) (history : List Edit)
    (kind : InputKind) (key value option : String) :
    ¬ answers.TickedAfter key (history ++ [.text kind key value]) option := by
  rintro (hlast | ⟨_, hticks, _⟩)
  · simp at hlast
  · have := hticks (.text kind key value) (by simp)
    simp [Edit.isTick] at this

theorem tickedAfter_concat_tick (answers : Answers) (history : List Edit)
    (key o option : String) (checked : Bool) :
    answers.TickedAfter key (history ++ [.tick key o checked]) option ↔
      if o = option then checked = true else answers.TickedAfter key history option := by
  unfold TickedAfter
  rw [Edit.sinceText_concat_tick, List.filter_append]
  split
  · rename_i ho
    simp [Edit.ticks, ho]
  · rename_i ho
    simp [Edit.ticks, ho, Edit.isTick, or_imp, forall_and]

theorem applyAll_concat (answers : Answers) (edits : List Edit) (edit : Edit) :
    answers.applyAll (edits ++ [edit]) = (answers.applyAll edits).apply edit := by
  simp [applyAll, List.foldl_append]

/-- A single option is held after some edits as the history of its key says. -/
theorem holds_applyAll_iff (answers : Answers) (edits : List Edit) (key option : String) :
    (answers.applyAll edits).Holds key option ↔
      answers.TickedAfter key (Edit.about key edits) option := by
  -- From the end, as the latest edit of a key decides.
  induction edits using List.reverseRecOn with
  | nil => simp [TickedAfter, Edit.about, Edit.sinceText, applyAll]
  | append_singleton edits edit ih =>
      rw [applyAll_concat]
      by_cases h : edit.key = key
      · rw [Edit.about_concat_self h]
        cases edit with
        | text kind k value =>
            obtain rfl : k = key := h
            exact iff_of_false (not_holds_apply_text _ kind k value option)
              (not_tickedAfter_concat_text _ _ kind k value option)
        | tick k o checked =>
            obtain rfl : k = key := h
            rw [holds_apply_tick, tickedAfter_concat_tick, ih]
      · rw [Edit.about_concat_of_ne h, ← ih]
        exact holds_congr (get?_apply_of_ne h) option

/-- The last edit of a key decides what sort of answer is held under it. -/
theorem get?_applyAll_cases (answers : Answers) (edits : List Edit) (key : String) :
    match (Edit.about key edits).getLast? with
    | none => (answers.applyAll edits).get? key = answers.get? key
    | some (.text kind _ value) =>
        (answers.applyAll edits).get? key = some (.single kind value)
    | some (.tick ..) =>
        ∃ ticked, (answers.applyAll edits).get? key = some (.multiple ticked) := by
  induction edits using List.reverseRecOn with
  | nil => rfl
  | append_singleton edits edit ih =>
      rw [applyAll_concat, get?_apply]
      by_cases h : edit.key = key
      · rw [Edit.about_concat_self h, List.getLast?_concat, if_pos h]
        cases edit with
        | text kind k value => rfl
        | tick k option checked => exact ⟨_, rfl⟩
      · rw [Edit.about_concat_of_ne h, if_neg h]
        exact ih

/-- No edit makes a key disappear, and a key that appears is the key of an edit. -/
theorem contains_applyAll (answers : Answers) (edits : List Edit) (key : String) :
    (answers.applyAll edits).contains key =
      (answers.contains key || edits.any (·.key = key)) := by
  induction edits using List.reverseRecOn with
  | nil => simp [applyAll]
  | append_singleton edits edit ih =>
      rw [applyAll_concat, contains, get?_apply]
      by_cases h : edit.key = key
      · simp [h]
      · rw [if_neg h, ← contains, ih]
        simp [h]

/-- What is held under a key after any edits, read off the edits of that key. -/
theorem get?_applyAll (answers : Answers) (edits : List Edit) (key : String) :
    (match (Edit.about key edits).getLast? with
      | none => (answers.applyAll edits).get? key = answers.get? key
      | some (.text kind _ value) =>
          (answers.applyAll edits).get? key = some (.single kind value)
      | some (.tick ..) => ∃ ticked : OptionSet,
          (answers.applyAll edits).get? key = some (.multiple ticked) ∧
            ∀ option, option ∈ ticked ↔
              answers.TickedAfter key (Edit.about key edits) option) ∧
      (answers.applyAll edits).contains key =
        (answers.contains key || edits.any (·.key = key)) := by
  refine ⟨?_, contains_applyAll answers edits key⟩
  have hcases := get?_applyAll_cases answers edits key
  split at hcases
  · exact hcases
  · exact hcases
  · obtain ⟨ticked, hget⟩ := hcases
    refine ⟨ticked, hget, fun option => ?_⟩
    rw [← holds_applyAll_iff, holds_iff_of_get? hget]

end Answers

end ProseForms
