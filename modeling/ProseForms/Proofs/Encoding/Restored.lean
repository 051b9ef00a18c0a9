import ProseForms.Encoding.Basic
import ProseForms.Proofs.Json.Reading

/-!
# Encoded values that are restored

What it takes for values to survive being encoded and decoded.

* `Json.depth` is how many arrays and objects a value has open at once.
* `Restored write read? a` says that `a` is read back from what is written for it, wherever
  there is room for that.
* `Fits write read? room` says that what is read in some room fits into this room again when
  it is written, although it may have been spelled in another way.
* Both pass from the parts of an encoded value to the value: for a value that may be absent,
  for a list, for an alternative with one part and for one with two.
-/

namespace ProseForms

namespace Json

/-! ## Depth -/

mutual

/-- How many arrays and objects a value has open at once. -/
def depth : Json → Nat
  | .null | .bool _ | .number _ | .string _ => 0
  | .array items => itemsDepth items + 1
  | .object entries => entriesDepth entries + 1
termination_by structural value => value

/-- How many arrays and objects some items have open at once. -/
def itemsDepth : List Json → Nat
  | [] => 0
  | item :: rest => max (depth item) (itemsDepth rest)
termination_by structural items => items

/-- How many arrays and objects some entries have open at once. -/
def entriesDepth : List (Option String × Json) → Nat
  | [] => 0
  | (_, value) :: rest => max (depth value) (entriesDepth rest)
termination_by structural entries => entries

end

@[simp] theorem depth_text (s : String) : (text s).depth = 0 :=
  rfl

@[simp] theorem depth_bool (value : Bool) : depth (.bool value) = 0 :=
  rfl

theorem itemsDepth_le {items : List Json} {room : Nat} :
    itemsDepth items ≤ room ↔ ∀ item ∈ items, item.depth ≤ room := by
  induction items with
  | nil => simp [itemsDepth]
  | cons item rest ih => simp [itemsDepth, ih]

theorem entriesDepth_le {entries : List (Option String × Json)} {room : Nat} :
    entriesDepth entries ≤ room ↔ ∀ entry ∈ entries, entry.2.depth ≤ room := by
  induction entries with
  | nil => simp [entriesDepth]
  | cons entry rest ih => simp [entriesDepth, ih]

theorem succ_le_iff_exists {n room : Nat} :
    n + 1 ≤ room ↔ ∃ inner, room = inner + 1 ∧ n ≤ inner := by
  constructor
  · intro h
    exact ⟨room - 1, by omega, by omega⟩
  · rintro ⟨inner, rfl, h⟩
    omega

@[simp] theorem depth_array_le {items : List Json} {room : Nat} :
    depth (.array items) ≤ room ↔
      ∃ inner, room = inner + 1 ∧ ∀ item ∈ items, item.depth ≤ inner := by
  simp only [depth, succ_le_iff_exists, itemsDepth_le]

@[simp] theorem depth_object_le {entries : List (Option String × Json)} {room : Nat} :
    depth (.object entries) ≤ room ↔
      ∃ inner, room = inner + 1 ∧ ∀ entry ∈ entries, entry.2.depth ≤ inner := by
  simp only [depth, succ_le_iff_exists, entriesDepth_le]

@[simp] theorem depth_ofList_le {α : Type} {item : α → Json} {items : List α} {room : Nat} :
    (ofList item items).depth ≤ room ↔
      ∃ inner, room = inner + 1 ∧ ∀ a ∈ items, (item a).depth ≤ inner := by
  simp [ofList]

@[simp] theorem depth_record_le {entries : List (String × Json)} {room : Nat} :
    (record entries).depth ≤ room ↔
      ∃ inner, room = inner + 1 ∧ ∀ entry ∈ entries, entry.2.depth ≤ inner := by
  simp only [record, depth_object_le, List.forall_mem_map]

@[simp] theorem depth_tagged_le {name : String} {content : Json} {room : Nat} :
    (tagged name content).depth ≤ room ↔
      ∃ inner, room = inner + 1 ∧ content.depth ≤ inner := by
  simp [tagged]

/-- Whether a function puts two values, and nothing else, into an array or object. -/
structure IsPair (pair : Json → Json → Json) : Prop where
  spelled_iff : ∀ {j k}, (pair j k).Spelled ↔ j.Spelled ∧ k.Spelled
  depth_le_iff : ∀ {j k room}, (pair j k).depth ≤ room ↔
    ∃ inner, room = inner + 1 ∧ j.depth ≤ inner ∧ k.depth ≤ inner

theorem isPair_array : IsPair fun j k => .array [j, k] where
  spelled_iff := by simp [spelled_array]
  depth_le_iff := by simp

theorem isPair_record (first second : String) :
    IsPair fun j k => record [(first, j), (second, k)] where
  spelled_iff := by simp [spelled_record]
  depth_le_iff := by simp

theorem opening_eq_some_iff {α : Type} {room : Nat} {read : Nat → Option α} {a : α} :
    opening room read = some a ↔ ∃ inner, room = inner + 1 ∧ read inner = some a := by
  cases room <;> simp [opening]

end Json

/-- Items that are read back one by one are read back together. -/
theorem mapM_map_eq_some {α β : Type} {write : α → β} {read? : β → Option α} {items : List α}
    (h : ∀ a ∈ items, read? (write a) = some a) : (items.map write).mapM read? = some items := by
  induction items with
  | nil => rfl
  | cons a rest ih =>
      rw [List.map_cons, List.mapM_cons, h a List.mem_cons_self,
        ih fun b hb => h b (List.mem_cons_of_mem a hb)]
      rfl

/-- Reads a value that may be absent, for which a null stands. -/
def Json.nullable? {α : Type} (read? : Nat → Json → Option α) (room : Nat) :
    Json → Option (Option α)
  | .null => some none
  | j => (read? room j).map some

/-! ## Values that are read back -/

section

variable {α β γ : Type} {write : α → Json} {read? : Nat → Json → Option α} {room : Nat}
  {writeFst : β → Json} {readFst? : Nat → Json → Option β}
  {writeSnd : γ → Json} {readSnd? : Nat → Json → Option γ}

/-- Whether a value is read back from what is written for it. -/
def Restored (write : α → Json) (read? : Nat → Json → Option α) (a : α) : Prop :=
  (write a).Spelled ∧ ∀ room, (write a).depth ≤ room → read? room (write a) = some a

theorem restored_text (s : String) : Restored Json.text Json.leafText? s :=
  ⟨Json.spelled_text s, fun _ _ => rfl⟩

theorem restored_bool (value : Bool) : Restored Json.bool Json.leafBool? value :=
  ⟨Json.spelled_bool value, fun _ _ => rfl⟩

/-- A value that may be absent is read back if no value is written as a null. -/
theorem Restored.nullable {value : Option α} (h : ∀ a ∈ value, Restored write read? a)
    (hnull : ∀ a, write a ≠ .null) :
    Restored (Json.ofOption write) (Json.nullable? read?) value := by
  cases value with
  | none => exact ⟨Json.spelled_null, fun _ _ => rfl⟩
  | some a =>
      have ha := h a rfl
      refine ⟨ha.1, fun room hroom => ?_⟩
      show Json.nullable? read? room (write a) = some (some a)
      unfold Json.nullable?
      split
      · rename_i heq
        exact absurd heq (hnull a)
      · rw [ha.2 room hroom]
        rfl

/-- A list is read back if its items are. -/
theorem Restored.list {items : List α} (h : ∀ a ∈ items, Restored write read? a) :
    Restored (Json.ofList write) (Json.list? read?) items := by
  refine ⟨Json.spelled_ofList.2 fun a ha => (h a ha).1, fun room hroom => ?_⟩
  obtain ⟨inner, rfl, hdepth⟩ := Json.depth_ofList_le.1 hroom
  exact mapM_map_eq_some fun a ha => (h a ha).2 inner (hdepth a ha)

/-- An alternative with one part is read back if the part is. -/
theorem Restored.tagged {name : String} {make : β → α} {b : β}
    (h : Restored writeFst readFst? b) (hwrite : write (make b) = .tagged name (writeFst b))
    (hread : ∀ room j, read? (room + 1) (.tagged name j) = (readFst? room j).map make) :
    Restored write read? (make b) := by
  rw [Restored, hwrite]
  refine ⟨Json.spelled_tagged.2 h.1, fun room hroom => ?_⟩
  obtain ⟨inner, rfl, hdepth⟩ := Json.depth_tagged_le.1 hroom
  rw [hread, h.2 inner hdepth]
  rfl

/-- An alternative with two parts is read back if the parts are. -/
theorem Restored.taggedPair {name : String} {pair : Json → Json → Json} {make : β → γ → α}
    {b : β} {c : γ} (hb : Restored writeFst readFst? b) (hc : Restored writeSnd readSnd? c)
    (hpair : Json.IsPair pair)
    (hwrite : write (make b c) = .tagged name (pair (writeFst b) (writeSnd c)))
    (hread : ∀ room j k, read? (room + 2) (.tagged name (pair j k)) =
      (readFst? room j).bind fun b => (readSnd? room k).bind fun c => some (make b c)) :
    Restored write read? (make b c) := by
  rw [Restored, hwrite]
  refine ⟨Json.spelled_tagged.2 (hpair.spelled_iff.2 ⟨hb.1, hc.1⟩), fun room hroom => ?_⟩
  obtain ⟨_, rfl, hcontent⟩ := Json.depth_tagged_le.1 hroom
  obtain ⟨inner, rfl, hfst, hsnd⟩ := hpair.depth_le_iff.1 hcontent
  rw [hread, hb.2 inner hfst, hc.2 inner hsnd]
  rfl

/-! ## Values that fit when they are written again -/

/-- Whether what is read in some room fits into this room when it is written. -/
def Fits (write : α → Json) (read? : Nat → Json → Option α) (room : Nat) : Prop :=
  ∀ ⦃j a⦄, read? room j = some a → (write a).depth ≤ room

theorem fits_text : Fits Json.text Json.leafText? room :=
  fun _ _ _ => Nat.zero_le room

theorem fits_bool : Fits Json.bool Json.leafBool? room :=
  fun _ _ _ => Nat.zero_le room

/-- A value that may be absent fits if it fits when it is there. -/
theorem Fits.nullable (h : Fits write read? room) :
    Fits (Json.ofOption write) (Json.nullable? read?) room := by
  intro j value hread
  unfold Json.nullable? at hread
  split at hread
  · cases hread
    exact Nat.zero_le room
  · obtain ⟨a, ha, rfl⟩ := Option.map_eq_some_iff.1 hread
    exact h ha

/-- A list fits if its items fit into the room that it leaves them. -/
theorem Fits.list (h : Fits write read? (room - 1)) :
    Fits (Json.ofList write) (Json.list? read?) room := by
  intro j items hlist
  obtain ⟨inner, rfl, hitems⟩ := Json.opening_eq_some_iff.1 hlist
  obtain ⟨js, -, hmap⟩ := Option.bind_eq_some_iff.1 hitems
  refine Json.depth_ofList_le.2 ⟨inner, rfl, ?_⟩
  clear hlist hitems
  induction js generalizing items with
  | nil =>
      cases hmap
      simp
  | cons j js ih =>
      rw [List.mapM_cons] at hmap
      obtain ⟨a, ha, hothers⟩ := Option.bind_eq_some_iff.1 hmap
      obtain ⟨rest, hrest, hitems⟩ := Option.bind_eq_some_iff.1 hothers
      cases hitems
      exact List.forall_mem_cons.2 ⟨h ha, ih hrest⟩

/-- An alternative with one part fits if the part does. -/
theorem Fits.tagged {name : String} {make : β → α} {j : Json} {a : α}
    (h : Fits writeFst readFst? room) (hread : (readFst? room j).map make = some a)
    (hwrite : ∀ b, write (make b) = .tagged name (writeFst b)) :
    (write a).depth ≤ room + 1 := by
  obtain ⟨b, hb, rfl⟩ := Option.map_eq_some_iff.1 hread
  rw [hwrite]
  exact Json.depth_tagged_le.2 ⟨room, rfl, h hb⟩

/-- An alternative with two parts fits if the parts do. -/
theorem Fits.taggedPair {name : String} {pair : Json → Json → Json} {make : β → γ → α}
    {j k : Json} {a : α} (hfst : Fits writeFst readFst? room)
    (hsnd : Fits writeSnd readSnd? room) (hpair : Json.IsPair pair)
    (hread : ((readFst? room j).bind fun b => (readSnd? room k).bind fun c =>
      some (make b c)) = some a)
    (hwrite : ∀ b c, write (make b c) = .tagged name (pair (writeFst b) (writeSnd c))) :
    (write a).depth ≤ room + 2 := by
  obtain ⟨b, hb, hread⟩ := Option.bind_eq_some_iff.1 hread
  obtain ⟨c, hc, hread⟩ := Option.bind_eq_some_iff.1 hread
  cases hread
  rw [hwrite]
  exact Json.depth_tagged_le.2
    ⟨room + 1, rfl, hpair.depth_le_iff.2 ⟨room, rfl, hfst hb, hsnd hc⟩⟩

end

end ProseForms
