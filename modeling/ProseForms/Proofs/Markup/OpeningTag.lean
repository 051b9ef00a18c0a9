import Mathlib.Data.List.Basic
import ProseForms.Markup.Snapshot
import ProseForms.Proofs.Text.Delimited

/-!
# Opening tags tell elements apart

In a snapshot an opening tag writes a name, then the attributes that are there in a fixed
order, then the binding.

* `Element.slots` lists everything that an opening tag may say about an element, and
  `Element.marks` what it does say.  The names of the slots are fixed and distinct, so that
  `Element.eq_of_marks_eq` recovers the element from its marks.
* `Mark.append_inj` cancels one mark, and `marks_append_inj` all marks of an opening tag.
* `elementText_injective` says that different elements have different opening tags.
-/

namespace ProseForms

open Text (SelfDelimiting Escapes IsWord quotedBy)

/-! ## Names -/

theorem Tag.isWord_name (tag : Tag) : IsWord tag.name := by
  cases tag <;> decide

theorem Tag.ofName?_name (tag : Tag) : Tag.ofName? tag.name = some tag := by
  cases tag <;> decide

theorem Tag.name_injective : Function.Injective Tag.name := by
  intro tag tag' h
  refine Option.some.inj ?_
  rw [← ofName?_name tag, h, ofName?_name]

theorem InputKind.isWord_name (kind : InputKind) : IsWord kind.name := by
  cases kind <;> decide

theorem InputKind.name_injective : Function.Injective InputKind.name := by
  intro a b h
  cases a <;> cases b <;> simp [name] at h ⊢

/-! ## Bindings -/

namespace Binding

theorem toList_display (binding : Binding) :
    binding.display.toList =
      match binding with
      | input kind key =>
          ['i', 'n', 'p', 'u', 't', '('] ++ (Text.quoted key).toList ++ [',', ' '] ++
            kind.name.toList ++ [')']
      | change key => ['c', 'h', 'a', 'n', 'g', 'e', '('] ++ (Text.quoted key).toList ++ [')']
      | choose key value =>
          ['c', 'h', 'o', 'o', 's', 'e', '('] ++ (Text.quoted key).toList ++ [',', ' '] ++
            (Text.quoted value).toList ++ [')']
      | toggle key option =>
          ['t', 'o', 'g', 'g', 'l', 'e', '('] ++ (Text.quoted key).toList ++ [',', ' '] ++
            (Text.quoted option).toList ++ [')'] := by
  cases binding <;> simp [display]

/-- Two quoted texts in a row, as in the bindings with two texts. -/
theorem quoted_pair_append_inj {a b x y : String} {r s : List Char}
    (h : (Text.quoted a).toList ++ ',' :: ' ' :: ((Text.quoted x).toList ++ ')' :: r) =
      (Text.quoted b).toList ++ ',' :: ' ' :: ((Text.quoted y).toList ++ ')' :: s)) :
    a = b ∧ x = y ∧ r = s := by
  obtain ⟨rfl, hrest⟩ := Text.selfDelimiting_quoted _ _ _ _ h
  obtain ⟨rfl, htail⟩ := Text.selfDelimiting_quoted _ _ _ _
    (List.cons.inj (List.cons.inj hrest).2).2
  exact ⟨rfl, rfl, (List.cons.inj htail).2⟩

/-- A displayed binding shows where it ends. -/
theorem selfDelimiting_display : SelfDelimiting fun binding => (display binding).toList := by
  intro a b r s h
  -- Bindings of different kinds differ in one of their first two letters.
  cases a <;> cases b <;>
    simp only [toList_display, List.cons_append, List.nil_append, List.append_assoc,
      List.cons.injEq, Char.reduceEq, true_and, false_and, and_false] at h
  case input.input kind key kind' key' =>
    obtain ⟨rfl, hrest⟩ := Text.selfDelimiting_quoted _ _ _ _ h
    obtain ⟨hname, htail⟩ := Text.append_inj_of_span (InputKind.isWord_name kind)
      (InputKind.isWord_name kind') (by simp) (by simp)
      (List.cons.inj (List.cons.inj hrest).2).2
    obtain rfl := InputKind.name_injective (String.toList_inj.1 hname)
    exact ⟨rfl, (List.cons.inj htail).2⟩
  case change.change key key' =>
    obtain ⟨rfl, hrest⟩ := Text.selfDelimiting_quoted _ _ _ _ h
    exact ⟨rfl, (List.cons.inj hrest).2⟩
  case choose.choose key value key' value' =>
    obtain ⟨rfl, rfl, hrest⟩ := quoted_pair_append_inj h
    exact ⟨rfl, hrest⟩
  case toggle.toggle key option key' option' =>
    obtain ⟨rfl, rfl, hrest⟩ := quoted_pair_append_inj h
    exact ⟨rfl, hrest⟩

theorem newline_not_mem_display (binding : Binding) : '\n' ∉ binding.display.toList := by
  rw [toList_display]
  cases binding <;> simp [Text.newline_not_mem_quoted, (InputKind.isWord_name _).newline_not_mem]

/-- The kind of a binding is its first letter, which no quoted text has. -/
theorem display_first (binding : Binding) :
    ∃ first rest, binding.display.toList = first :: rest ∧ first ≠ '"' := by
  rw [toList_display]
  cases binding <;> exact ⟨_, _, rfl, by decide⟩

end Binding

/-! ## Attribute values -/

namespace Snapshot

theorem escapes_escapedChar : Escapes escapedChar := by
  intro c
  unfold escapedChar
  split
  · exact Or.inl ⟨'n', rfl, by decide, fun _ => rfl⟩
  · exact Or.inl ⟨'r', rfl, by decide, fun _ => rfl⟩
  · exact Or.inl ⟨'t', rfl, by decide, fun _ => rfl⟩
  · exact Or.inl ⟨'"', rfl, by decide, fun _ => rfl⟩
  · exact Or.inl ⟨'\\', rfl, by decide, fun _ => rfl⟩
  · rename_i hnewline _ _ hquote hbackslash
    exact Or.inr (Or.inr ⟨rfl, hbackslash, hquote, hnewline⟩)

theorem toList_quoted (s : String) : (quoted s).toList = quotedBy escapedChar s :=
  String.toList_ofList

/-- A quoted attribute value shows where it ends. -/
theorem selfDelimiting_quoted : SelfDelimiting fun s => (quoted s).toList := by
  rw [funext toList_quoted]
  exact escapes_escapedChar.selfDelimiting_quotedBy

theorem newline_not_mem_quoted (s : String) : '\n' ∉ (quoted s).toList := by
  rw [toList_quoted]
  exact escapes_escapedChar.newline_not_mem_quotedBy s

/-! ## Marks -/

/-- What stands after a name in an opening tag. -/
inductive MarkValue where
  | present
  | text (content : String)
  | binding (control : Binding)
deriving DecidableEq

/-- One entry of an opening tag. -/
structure Mark where
  name : String
  value : MarkValue
deriving DecidableEq

/-- What stands after a name, as it is written. -/
def MarkValue.chars : MarkValue → List Char
  | .present => []
  | .text content => '=' :: (quoted content).toList
  | .binding control => '=' :: control.display.toList

/-- One entry of an opening tag, as it is written. -/
def Mark.chars (mark : Mark) : List Char :=
  ' ' :: mark.name.toList ++ mark.value.chars

/-- What can stand after a mark: another mark, or the end of the tag. -/
def EndsMark (rest : List Char) : Prop :=
  ∃ tail, rest = ' ' :: tail ∨ rest = '>' :: tail

theorem EndsMark.not_isAlphanum {rest : List Char} (h : EndsMark rest) :
    ∀ c ∈ rest.head?, c.isAlphanum = false := by
  obtain ⟨tail, rfl | rfl⟩ := h <;> simp

theorem MarkValue.append_inj {a b : MarkValue} {r s : List Char} (hr : EndsMark r)
    (hs : EndsMark s) (h : a.chars ++ r = b.chars ++ s) : a = b ∧ r = s := by
  have hends : ∀ {rest tail : List Char}, EndsMark rest → rest ≠ '=' :: tail := by
    rintro _ _ ⟨_, rfl | rfl⟩ heq <;> cases heq
  have hkinds : ∀ {content : String} {binding : Binding} {r s : List Char},
      (quoted content).toList ++ r ≠ binding.display.toList ++ s := by
    intro content binding r s heq
    obtain ⟨first, rest, hdisplay, hne⟩ := binding.display_first
    rw [toList_quoted, hdisplay] at heq
    exact hne (List.cons.inj heq).1.symm
  cases a <;> cases b
  case present.present => exact ⟨rfl, h⟩
  case text.text content other =>
    obtain ⟨rfl, hrest⟩ := selfDelimiting_quoted _ _ _ _ (List.cons.inj h).2
    exact ⟨rfl, hrest⟩
  case binding.binding binding other =>
    obtain ⟨rfl, hrest⟩ := Binding.selfDelimiting_display _ _ _ _ (List.cons.inj h).2
    exact ⟨rfl, hrest⟩
  case present.text | present.binding => exact absurd h (hends hr)
  case text.present | binding.present => exact absurd h.symm (hends hs)
  case text.binding => exact absurd (List.cons.inj h).2 hkinds
  case binding.text => exact absurd (List.cons.inj h).2.symm hkinds

theorem MarkValue.not_isAlphanum_of_mem_head? {value : MarkValue} {r : List Char}
    (hr : EndsMark r) : ∀ c ∈ (value.chars ++ r).head?, c.isAlphanum = false := by
  intro c hc
  cases value with
  | present => exact hr.not_isAlphanum c hc
  | text content | binding control =>
      obtain rfl := Option.some.inj hc
      rfl

/-- A mark shows where it ends when another one or the end of the tag follows. -/
theorem Mark.append_inj {a b : Mark} {r s : List Char} (ha : IsWord a.name)
    (hb : IsWord b.name) (hr : EndsMark r) (hs : EndsMark s)
    (h : a.chars ++ r = b.chars ++ s) : a = b ∧ r = s := by
  simp only [chars, List.cons_append, List.append_assoc] at h
  obtain ⟨hname, hrest⟩ := Text.append_inj_of_span ha hb
    (MarkValue.not_isAlphanum_of_mem_head? hr) (MarkValue.not_isAlphanum_of_mem_head? hs)
    (List.cons.inj h).2
  obtain ⟨hvalue, htail⟩ := MarkValue.append_inj hr hs hrest
  cases a
  cases b
  obtain rfl := String.toList_inj.1 hname
  obtain rfl := hvalue
  exact ⟨rfl, htail⟩

theorem endsMark_marks (marks : List Mark) (r : List Char) :
    EndsMark (marks.flatMap Mark.chars ++ '>' :: r) := by
  cases marks with
  | nil => exact ⟨r, Or.inr rfl⟩
  | cons mark rest => exact ⟨_, Or.inl rfl⟩

/-- The marks of an opening tag can be told from what follows the tag. -/
theorem marks_append_inj {as bs : List Mark} {r s : List Char}
    (ha : ∀ mark ∈ as, IsWord mark.name) (hb : ∀ mark ∈ bs, IsWord mark.name)
    (h : as.flatMap Mark.chars ++ '>' :: r = bs.flatMap Mark.chars ++ '>' :: s) :
    as = bs ∧ r = s := by
  induction as generalizing bs with
  | nil =>
      cases bs with
      | nil => exact ⟨rfl, (List.cons.inj h).2⟩
      | cons b bs => exact absurd (List.cons.inj h).1 (by decide)
  | cons a as ih =>
      cases bs with
      | nil => exact absurd (List.cons.inj h).1 (by decide)
      | cons b bs =>
          rw [List.flatMap_cons, List.flatMap_cons, List.append_assoc,
            List.append_assoc] at h
          obtain ⟨rfl, hrest⟩ := Mark.append_inj (ha a List.mem_cons_self)
            (hb b List.mem_cons_self) (endsMark_marks as r) (endsMark_marks bs s) h
          obtain ⟨rfl, htail⟩ := ih (fun mark hmark => ha mark (List.mem_cons_of_mem _ hmark))
            (fun mark hmark => hb mark (List.mem_cons_of_mem _ hmark)) hrest
          exact ⟨rfl, htail⟩

end Snapshot

/-! ## Elements -/

namespace Element

open Snapshot (Mark MarkValue)

/-- What an opening tag says under a name, if it says anything. -/
def slotMark? (slot : String × Option MarkValue) : Option Mark :=
  slot.2.map (Mark.mk slot.1)

theorem name_mem_of_mem_filterMap {slots : List (String × Option MarkValue)} {mark : Mark}
    (h : mark ∈ slots.filterMap slotMark?) : mark.name ∈ slots.map Prod.fst := by
  obtain ⟨slot, hslot, hmark⟩ := List.mem_filterMap.1 h
  obtain ⟨value, -, rfl⟩ := Option.map_eq_some_iff.1 hmark
  exact List.mem_map_of_mem hslot

theorem filterMap_slotMark?_ne_cons (slots : List (String × Option MarkValue))
    {mark : Mark} {marks : List Mark} (h : mark.name ∉ slots.map Prod.fst) :
    slots.filterMap slotMark? ≠ mark :: marks :=
  fun heq => h (name_mem_of_mem_filterMap (heq ▸ List.mem_cons_self))

/-- Under distinct names, what is said tells also what is left out. -/
theorem slots_eq_of_filterMap_eq {xs ys : List (String × Option MarkValue)}
    (hnames : xs.map Prod.fst = ys.map Prod.fst) (hdistinct : (xs.map Prod.fst).Nodup)
    (h : xs.filterMap slotMark? = ys.filterMap slotMark?) : xs = ys := by
  induction xs generalizing ys with
  | nil => exact (List.map_eq_nil_iff.1 hnames.symm).symm
  | cons x xs ih =>
      cases ys with
      | nil => cases hnames
      | cons y ys =>
          obtain ⟨name, value⟩ := x
          obtain ⟨name', value'⟩ := y
          obtain ⟨hname, hrest⟩ := List.cons.inj hnames
          dsimp only at hname
          subst hname
          obtain ⟨hfresh, hdistinct'⟩ := List.nodup_cons.1 hdistinct
          cases value with
          | none =>
              cases value' with
              | none => rw [ih hrest hdistinct' h]
              | some content => exact absurd h (filterMap_slotMark?_ne_cons xs hfresh)
          | some content =>
              cases value' with
              | none => exact absurd h.symm (filterMap_slotMark?_ne_cons ys (hrest ▸ hfresh))
              | some content' =>
                  obtain ⟨hmark, htail⟩ := List.cons.inj h
                  rw [ih hrest hdistinct' htail, (Mark.mk.inj hmark).2]

/-- Everything that an opening tag may say after the name of the element, in the order in
which it is written. -/
def slots (head : Element) : List (String × Option MarkValue) :=
  (head.attributes.valued.map fun (name, value) => (name, value.map .text)) ++
    (head.attributes.flags.map fun (name, present) =>
      (name, if present then some .present else none)) ++
    [("bind", head.binding.map .binding)]

/-- The names in an opening tag do not depend on the element. -/
theorem slots_names (head : Element) :
    head.slots.map Prod.fst =
      ["id", "name", "type", "value", "href", "src", "alt", "for", "checked", "selected",
        "bind"] :=
  rfl

/-- The slots hold all attributes and the binding. -/
theorem eq_of_slots_eq {a b : Element} (htag : a.tag = b.tag) (h : a.slots = b.slots) :
    a = b := by
  have htext : Function.Injective (Option.map MarkValue.text) :=
    Option.map_injective fun _ _ => MarkValue.text.inj
  have hbinding : Function.Injective (Option.map MarkValue.binding) :=
    Option.map_injective fun _ _ => MarkValue.binding.inj
  have hflag : ∀ p q : Bool, (if p then some MarkValue.present else none) =
      (if q then some MarkValue.present else none) → p = q := by decide
  obtain ⟨tag, attributes, binding⟩ := a
  obtain ⟨tag', attributes', binding'⟩ := b
  obtain ⟨⟩ := attributes
  obtain ⟨⟩ := attributes'
  simp only [slots, Attributes.valued, Attributes.flags, List.map_cons, List.map_nil,
    List.cons_append, List.nil_append, List.cons.injEq, Prod.mk.injEq, true_and, and_true,
    htext.eq_iff, hbinding.eq_iff] at h
  obtain ⟨rfl, rfl, rfl, rfl, rfl, rfl, rfl, rfl, hchecked, hselected, rfl⟩ := h
  obtain rfl := hflag _ _ hchecked
  obtain rfl := hflag _ _ hselected
  obtain rfl : tag = tag' := htag
  rfl

/-- What an opening tag says after the name of the element. -/
def marks (head : Element) : List Mark :=
  head.slots.filterMap slotMark?

theorem isWord_of_mem_marks {head : Element} : ∀ mark ∈ head.marks, IsWord mark.name := by
  have hnames : ∀ name ∈ head.slots.map Prod.fst, IsWord name := by
    rw [slots_names]
    decide
  exact fun mark h => hnames mark.name (name_mem_of_mem_filterMap h)

/-- An element can be told from its tag and what its opening tag says. -/
theorem eq_of_marks_eq {a b : Element} (htag : a.tag = b.tag) (h : a.marks = b.marks) :
    a = b :=
  eq_of_slots_eq htag
    (slots_eq_of_filterMap_eq ((slots_names a).trans (slots_names b).symm)
      (by rw [slots_names]; decide) h)

end Element

namespace Snapshot

/-! ## Opening tags -/

/-- What an opening tag says in a slot, as characters. -/
def slotChars (slot : String × Option MarkValue) : List Char :=
  (Element.slotMark? slot).toList.flatMap Mark.chars

theorem toList_valued : ∀ entry : String × Option String,
    (match entry.2 with
      | some value => " " ++ entry.1 ++ "=" ++ quoted value
      | none => "").toList = slotChars (entry.1, entry.2.map .text)
  | (_, none) => rfl
  | (_, some _) => by simp [slotChars, Element.slotMark?, Mark.chars, MarkValue.chars]

theorem toList_flag : ∀ entry : String × Bool,
    (if entry.2 then " " ++ entry.1 else "").toList =
      slotChars (entry.1, if entry.2 then some .present else none)
  | (_, false) => rfl
  | (_, true) => by simp [slotChars, Element.slotMark?, Mark.chars, MarkValue.chars]

theorem toList_binding : ∀ binding : Option Binding,
    (match binding with
      | some control => " bind=" ++ control.display
      | none => "").toList = slotChars ("bind", binding.map .binding)
  | none => rfl
  | some _ => by simp [slotChars, Element.slotMark?, Mark.chars, MarkValue.chars]

/-- An opening tag as characters: the name, then the marks. -/
theorem toList_elementText (head : Element) :
    (elementText head).toList =
      '<' :: (head.tag.name.toList ++ (head.marks.flatMap Mark.chars ++ ['>'])) := by
  have hmarks : head.marks.flatMap Mark.chars =
      head.attributes.valued.flatMap (fun entry => slotChars (entry.1, entry.2.map .text)) ++
      head.attributes.flags.flatMap (fun entry =>
        slotChars (entry.1, if entry.2 then some .present else none)) ++
      slotChars ("bind", head.binding.map .binding) := by
    rw [Element.marks, List.filterMap_eq_flatMap_toList, List.flatMap_assoc, Element.slots,
      List.flatMap_append, List.flatMap_append, List.flatMap_map, List.flatMap_map,
      List.flatMap_singleton]
    rfl
  have hattributes : (attributesText head.attributes).toList =
      head.attributes.valued.flatMap (fun entry => slotChars (entry.1, entry.2.map .text)) ++
      head.attributes.flags.flatMap (fun entry =>
        slotChars (entry.1, if entry.2 then some .present else none)) := by
    rw [attributesText, String.toList_join, List.flatMap_append, List.flatMap_map,
      List.flatMap_map]
    exact congrArg₂ _ (List.flatMap_congr fun entry _ => toList_valued entry)
      (List.flatMap_congr fun entry _ => toList_flag entry)
  rw [hmarks, ← hattributes, ← toList_binding]
  simp only [elementText, String.toList_append, List.append_assoc]
  rfl

/-- Different elements have different opening tags. -/
theorem elementText_injective : Function.Injective elementText := by
  intro a b h
  have hchars := congrArg String.toList h
  rw [toList_elementText, toList_elementText] at hchars
  obtain ⟨hname, hrest⟩ := Text.append_inj_of_span a.tag.isWord_name b.tag.isWord_name
    (endsMark_marks a.marks []).not_isAlphanum (endsMark_marks b.marks []).not_isAlphanum
    (List.cons.inj hchars).2
  obtain ⟨hmarks, -⟩ :=
    marks_append_inj Element.isWord_of_mem_marks Element.isWord_of_mem_marks hrest
  exact Element.eq_of_marks_eq (Tag.name_injective (String.toList_inj.1 hname)) hmarks

/-! ## Line feeds -/

theorem Mark.newline_not_mem_chars {mark : Mark} (h : IsWord mark.name) :
    '\n' ∉ mark.chars := by
  obtain ⟨name, _ | content | binding⟩ := mark
  · simp [chars, MarkValue.chars, h.newline_not_mem]
  · simp [chars, MarkValue.chars, h.newline_not_mem, newline_not_mem_quoted]
  · simp [chars, MarkValue.chars, h.newline_not_mem, binding.newline_not_mem_display]

theorem newline_not_mem_elementText (head : Element) :
    '\n' ∉ (elementText head).toList := by
  have hmarks : '\n' ∉ head.marks.flatMap Mark.chars := by
    intro hmem
    obtain ⟨mark, hmark, hchar⟩ := List.mem_flatMap.1 hmem
    exact Mark.newline_not_mem_chars (Element.isWord_of_mem_marks mark hmark) hchar
  simp [toList_elementText, head.tag.isWord_name.newline_not_mem, hmarks]

end Snapshot

end ProseForms
