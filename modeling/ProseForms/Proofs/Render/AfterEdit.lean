import ProseForms.Proofs.Answers.History
import ProseForms.Proofs.Render.Display

/-!
# What the next rendering shows

An edit changes the answer under one key, and the next rendering shows the new answer
in every control of that key, whatever the control is.  A control that the answer is
not of the right sort for goes back to its default.

* `shown_apply` says what the controls of a whole document show after an edit.
* `shownAt_toggle` follows one check box that is ticked or cleared, and says what
  becomes of all the others.
* `shown_choose` follows a choice in a drop down.
-/

namespace ProseForms

/-! ## One control -/

namespace Control

/-- What a control shows once a text has been put under its key. -/
def shownAfterText (text : String) : Control → List (String × Bool)
  | .textBox .. => [(text, false)]
  | .radioButtons default options =>
      (default :: options).map fun choice => (choice, choice = text)
  | .checkBoxes flags options => options.zip flags
  | .dropDown options (some _) => options.map fun option => (option, option = text)
  | .dropDown options none => ("" :: options).map fun option => (option, false)

/-- What a control shows once an option has been ticked or cleared under its key, where
`held` are the options that were ticked before. -/
def shownAfterTick (held : OptionSet) (option : String) (checked : Bool) :
    Control → List (String × Bool)
  | .textBox _ default => [(default.getD "", false)]
  | .radioButtons default options =>
      (default :: options).map fun choice => (choice, choice = default)
  | .checkBoxes _ options =>
      options.map fun box => (box, if box = option then checked else held.contains box)
  | .dropDown options (some default) => options.map fun choice => (choice, choice = default)
  | .dropDown options none => ("" :: options).map fun choice => (choice, false)

theorem shown_apply_text (answers : Answers) (kind : InputKind) (key text label : String)
    (control : Control) :
    control.shown (answers.apply (.text kind key text)) label =
      if label = key then control.shownAfterText text else control.shown answers label := by
  by_cases h : label = key
  · subst h
    rw [if_pos rfl]
    cases control with
    | textBox kind default => simp [shown, shownAfterText, Answers.shownText]
    | radioButtons default options => simp [shown, shownAfterText, Answers.shownRadios]
    | checkBoxes flags options =>
        simp [shown, shownAfterText, Answers.shownBoxes, flaggedOptions]
    | dropDown options default =>
        cases default <;> simp [shown, shownAfterText, Answers.shownOptions]
  · rw [if_neg h]
    exact control.shown_congr (Answers.get?_apply_of_ne (Ne.symm h))

theorem shown_apply_tick (answers : Answers) (key option label : String) (checked : Bool)
    (control : Control) :
    control.shown (answers.apply (.tick key option checked)) label =
      if label = key then
        control.shownAfterTick ((answers.options? key).getD ∅) option checked
      else control.shown answers label := by
  by_cases h : label = key
  · subst h
    rw [if_pos rfl]
    cases control with
    | textBox kind default => simp [shown, shownAfterTick, Answers.shownText]
    | radioButtons default options => simp [shown, shownAfterTick, Answers.shownRadios]
    | checkBoxes flags options =>
        simp [shown, shownAfterTick, Answers.shownBoxes, Answers.contains_ticked]
    | dropDown options default =>
        cases default <;> simp [shown, shownAfterTick, Answers.shownOptions]
  · rw [if_neg h]
    exact control.shown_congr (Answers.get?_apply_of_ne (Ne.symm h))

end Control

namespace Document

variable (idPrefix : String) (answers : Answers) (doc : Document)

/-! ## A whole document -/

/-- What a rendering shows after an edit: the controls of other keys show what they
showed, and those of the key show what the edit says.  No input and no option of the
rendering stands outside its containers. -/
theorem shown_apply (key : String) :
    (∀ kind text, doc.shown idPrefix (answers.apply (.text kind key text)) =
      doc.controls.map fun (label, control) =>
        if label = key then control.shownAfterText text else control.shown answers label) ∧
    (∀ option checked, doc.shown idPrefix (answers.apply (.tick key option checked)) =
      doc.controls.map fun (label, control) =>
        if label = key then
          control.shownAfterTick ((answers.options? key).getD ∅) option checked
        else control.shown answers label) ∧
    (∀ edit, ((Node.headsIn (doc.render idPrefix (answers.apply edit))).filterMap
      Element.shown?).Perm (doc.shown idPrefix (answers.apply edit)).flatten) := by
  refine ⟨fun kind text => ?_, fun option checked => ?_, fun edit =>
    Renderer.seesControls_shown.headsIn_perm idPrefix (answers.apply edit) doc⟩
  · rw [shown_eq]
    exact List.map_congr_left fun (label, control) _ =>
      control.shown_apply_text answers kind key text label
  · rw [shown_eq]
    exact List.map_congr_left fun (label, control) _ =>
      control.shown_apply_tick answers key option label checked

/-! ## One check box -/

variable {idPrefix answers doc}

/-- A box that is shown stands for an option, and is ticked as the held set says, if one
is held. -/
theorem of_shownAt_checkBoxes {i j : Nat} {key box : String} {flags : List Bool}
    {options : List String} {was : Bool}
    (hcontrol : doc.controls[i]? = some (key, .checkBoxes flags options))
    (hbox : doc.shownAt idPrefix answers i j = some (box, was)) :
    options[j]? = some box ∧
      ∀ held, answers.options? key = some held → held.contains box = was := by
  rw [shownAt_eq idPrefix answers hcontrol, Control.shown, Answers.shownBoxes] at hbox
  cases hheld : answers.options? key with
  | none =>
      rw [hheld] at hbox
      exact ⟨(List.getElem?_zip_eq_some.1 hbox).1, fun _ h => by cases h⟩
  | some ticked =>
      rw [hheld] at hbox
      simp only [List.getElem?_map, Option.map_eq_some_iff, Prod.mk.injEq] at hbox
      obtain ⟨_, hoption, rfl, hwas⟩ := hbox
      refine ⟨hoption, fun held h => ?_⟩
      obtain rfl := Option.some.inj h
      exact hwas

/-- After a tick a group of check boxes shows all its options. -/
theorem shownAt_tick_checkBoxes {i : Nat} {key : String} {flags : List Bool}
    {options : List String} (hcontrol : doc.controls[i]? = some (key, .checkBoxes flags options))
    (option : String) (checked : Bool) (j : Nat) :
    doc.shownAt idPrefix (answers.apply (.tick key option checked)) i j =
      options[j]?.map fun box => (box,
        if box = option then checked else ((answers.options? key).getD ∅).contains box) := by
  rw [shownAt_eq idPrefix _ hcontrol, Control.shown_apply_tick, if_pos rfl,
    Control.shownAfterTick, List.getElem?_map]

/-- Ticking or clearing a box shows it so, and with it all boxes of its option and key.
The other boxes stay as they are, except that those of the key are cleared when no set
of options was held. -/
theorem shownAt_toggle {i j : Nat} {key option : String} {flags : List Bool}
    {options : List String} {was : Bool}
    (hcontrol : doc.controls[i]? = some (key, .checkBoxes flags options))
    (hbox : doc.shownAt idPrefix answers i j = some (option, was)) (checked : Bool) :
    ∃ binding edit, doc.bindingAt idPrefix answers i j = some binding ∧
      binding.resolve? (.checked checked) = some edit ∧
      doc.shownAt idPrefix (answers.apply edit) i j = some (option, checked) ∧
      (∀ i' j' flags' options' now,
        doc.controls[i']? = some (key, .checkBoxes flags' options') →
          doc.shownAt idPrefix (answers.apply edit) i' j' = some (option, now) →
            now = checked) ∧
      (∀ i' j' label flags' options' box before,
        doc.controls[i']? = some (label, .checkBoxes flags' options') →
          doc.shownAt idPrefix answers i' j' = some (box, before) →
            label ≠ key ∨ box ≠ option →
              doc.shownAt idPrefix (answers.apply edit) i' j' = some (box,
                if label = key ∧ answers.options? key = none then false else before)) := by
  have hbinding : doc.bindingAt idPrefix answers i j = some (.toggle key option) := by
    rw [shownAt_eq idPrefix answers hcontrol, Control.shown] at hbox
    rw [bindingAt_eq idPrefix answers hcontrol, Control.bindings, List.getElem?_map, hbox]
    rfl
  refine ⟨_, .tick key option checked, hbinding, rfl, ?_, ?_, ?_⟩
  · obtain ⟨hoption, _⟩ := of_shownAt_checkBoxes hcontrol hbox
    rw [shownAt_tick_checkBoxes hcontrol, hoption, Option.map_some, if_pos rfl]
  · intro i' j' flags' options' now hcontrol' hnow
    rw [shownAt_tick_checkBoxes hcontrol'] at hnow
    simp only [Option.map_eq_some_iff, Prod.mk.injEq] at hnow
    obtain ⟨_, _, rfl, hnow⟩ := hnow
    rw [if_pos rfl] at hnow
    exact hnow.symm
  · intro i' j' label flags' options' box before hcontrol' hbefore hother
    obtain ⟨hoption, hheld⟩ := of_shownAt_checkBoxes hcontrol' hbefore
    by_cases hlabel : label = key
    · subst hlabel
      have hne : box ≠ option := hother.resolve_left (not_not_intro rfl)
      rw [shownAt_tick_checkBoxes hcontrol', hoption, Option.map_some, if_neg hne]
      -- The edit starts from the held set, which is what the boxes showed, or from none.
      cases hset : answers.options? label with
      | none => simp
      | some held => simp [hheld held hset]
    · rw [shownAt_eq idPrefix answers hcontrol'] at hbefore
      rw [shownAt_eq idPrefix _ hcontrol', Control.shown_apply_tick, if_neg hlabel,
        if_neg fun h => hlabel h.1]
      exact hbefore

/-- Two groups share a label and hold a set: ticking the second box of the first group
leaves its first box ticked, and ticks the second box of the other group. -/
theorem shownAt_toggle_sharedLabel :
    let boxes (flags : List Bool) (options : List String) : Inline :=
      .formField ⟨"Fruit", false, .checkBoxes (.literal flags) (.literal options)⟩
    let doc : Document := ⟨[.blockquote [.paragraph [boxes [true] ["Apple", "Pear"]]],
      .paragraph [boxes [true, false] ["Plum", "Pear"]]]⟩
    let answers := Answers.empty.apply (.tick "Fruit" "Apple" true)
    doc.controls[0]? = some ("Fruit", .checkBoxes [true] ["Apple", "Pear"]) ∧
      doc.shownAt "p" answers 0 1 = some ("Pear", false) ∧
      ∃ edit, (Binding.toggle "Fruit" "Pear").resolve? (.checked true) = some edit ∧
        doc.shownAt "p" (answers.apply edit) 0 1 = some ("Pear", true) ∧
        doc.shownAt "p" (answers.apply edit) 1 1 = some ("Pear", true) ∧
        doc.shownAt "p" (answers.apply edit) 0 0 = some ("Apple", true) := by
  intro boxes doc answers
  have hcontrol : doc.controls[0]? =
      some ("Fruit", .checkBoxes [true] ["Apple", "Pear"]) := by decide
  have hbox : doc.shownAt "p" answers 0 1 = some ("Pear", false) := by decide
  refine ⟨hcontrol, hbox, ?_⟩
  obtain ⟨binding, edit, hbinding, hedit, hbox', hsame, hother⟩ :=
    shownAt_toggle hcontrol hbox true
  have htoggle : doc.bindingAt "p" answers 0 1 = some (.toggle "Fruit" "Pear") := by decide
  obtain rfl := Option.some.inj (hbinding.symm.trans htoggle)
  refine ⟨edit, hedit, hbox', ?_, ?_⟩
  · obtain rfl : Edit.tick "Fruit" "Pear" true = edit := Option.some.inj hedit
    have hshown : ∃ now, doc.shownAt "p" (answers.apply (.tick "Fruit" "Pear" true)) 1 1 =
        some ("Pear", now) := ⟨true, by decide⟩
    obtain ⟨now, hnow⟩ := hshown
    rw [hnow, hsame 1 1 [true, false] ["Plum", "Pear"] now (by decide) hnow]
  · exact hother 0 0 "Fruit" [true] ["Apple", "Pear"] "Apple" true hcontrol (by decide)
      (by decide)

/-- Ticking the second of two boxes that are shown as their flags say clears the
first. -/
theorem shownAt_toggle_clearsOther :
    ¬ ∀ (idPrefix : String) (answers : Answers) (doc : Document) (i j : Nat)
        (key option : String) (flags : List Bool) (options : List String) (was checked : Bool)
        (binding : Binding) (edit : Edit),
      doc.controls[i]? = some (key, .checkBoxes flags options) →
      doc.shownAt idPrefix answers i j = some (option, was) →
      doc.bindingAt idPrefix answers i j = some binding →
      binding.resolve? (.checked checked) = some edit →
      ∀ i' j' label flags' options' box before,
        doc.controls[i']? = some (label, .checkBoxes flags' options') →
          doc.shownAt idPrefix answers i' j' = some (box, before) →
            label ≠ key ∨ box ≠ option →
              doc.shownAt idPrefix (answers.apply edit) i' j' = some (box, before) := by
  intro h
  have happle := h "p" .empty ⟨[.paragraph [.formField
    ⟨"Fruit", false, .checkBoxes (.literal [true, false]) (.literal ["Apple", "Pear"])⟩]]⟩
    0 1 "Fruit" "Pear" [true, false] ["Apple", "Pear"] false true
    (.toggle "Fruit" "Pear") (.tick "Fruit" "Pear" true)
    (by decide) (by decide) (by decide) (by decide)
    0 0 "Fruit" [true, false] ["Apple", "Pear"] "Apple" true
    (by decide) (by decide) (by decide)
  exact absurd happle (by decide)

/-! ## One drop down -/

/-- Choosing a value in a drop down with a default selects exactly the options of that
value; without a default no option is ever selected. -/
theorem shown_choose {i : Nat} {key : String} {options : List String}
    {default : Option String}
    (hcontrol : doc.controls[i]? = some (key, .dropDown options default)) :
    ∃ shown, (doc.shown idPrefix answers)[i]? = some shown ∧
      (doc.bindings idPrefix answers)[i]? = some [.change key] ∧
      ∀ value, ∃ edit, (Binding.change key).resolve? (.change value) = some edit ∧
        (doc.shown idPrefix (answers.apply edit))[i]? =
          some (shown.map fun option => (option.1, default.isSome && option.1 = value)) := by
  refine ⟨(Control.dropDown options default).shown answers key, ?_, ?_, fun value =>
    ⟨.text .plainText key value, rfl, ?_⟩⟩
  · rw [shown_eq, List.getElem?_map, hcontrol]
    rfl
  · rw [bindings_eq, List.getElem?_map, hcontrol]
    rfl
  · rw [shown_eq, List.getElem?_map, hcontrol]
    show some ((Control.dropDown options default).shown _ key) = _
    rw [Control.shown_apply_text, if_pos rfl]
    cases default with
    | none => simp [Control.shown, Control.shownAfterText, Answers.shownOptions]
    | some default =>
        simp [Control.shown, Control.shownAfterText, Answers.shownOptions, Function.comp_def]

/-- A choice in a drop down that starts with another value selected. -/
theorem shown_choose_medium :
    let doc : Document := ⟨[.paragraph [.formField ⟨"Size", true,
      .dropDown (.literal ["S", "M", "M"]) (some (.literal "S"))⟩]]⟩
    doc.controls[0]? = some ("Size", .dropDown ["S", "M", "M"] (some "S")) ∧
      ∃ edit, (Binding.change "Size").resolve? (.change "M") = some edit ∧
        (doc.shown "p" (Answers.empty.apply edit))[0]? =
          some [("S", false), ("M", true), ("M", true)] := by
  intro doc
  have hcontrol : doc.controls[0]? =
      some ("Size", .dropDown ["S", "M", "M"] (some "S")) := by decide
  obtain ⟨shown, hshown, _, hchoose⟩ :=
    @shown_choose "p" .empty doc 0 "Size" ["S", "M", "M"] (some "S") hcontrol
  have hbefore : (doc.shown "p" .empty)[0]? =
      some [("S", true), ("M", false), ("M", false)] := by decide
  obtain rfl := Option.some.inj (hshown.symm.trans hbefore)
  obtain ⟨edit, hedit, hafter⟩ := hchoose "M"
  exact ⟨hcontrol, edit, hedit, hafter⟩

/-- A drop down without a default does not show the choice. -/
theorem shown_choose_withoutDefault :
    ¬ ∀ (idPrefix : String) (answers : Answers) (doc : Document) (i : Nat) (key : String)
        (options : List String) (default : Option String) (shown : List (String × Bool))
        (value : String) (edit : Edit),
      doc.controls[i]? = some (key, .dropDown options default) →
      (doc.shown idPrefix answers)[i]? = some shown →
      value ∈ shown.map Prod.fst →
      (Binding.change key).resolve? (.change value) = some edit →
        (doc.shown idPrefix (answers.apply edit))[i]? =
          some (shown.map fun option => (option.1, decide (option.1 = value))) := by
  intro h
  have hsize := h "p" .empty ⟨[.paragraph [.formField
    ⟨"Size", false, .dropDown (.literal ["S", "M"]) none⟩]]⟩ 0 "Size" ["S", "M"] none
    [("", false), ("S", false), ("M", false)] "M" (.text .plainText "Size" "M")
    (by decide) (by decide) (by decide) (by decide)
  exact absurd hsize (by decide)

end Document

end ProseForms
