import ProseForms.Encoding.Answers
import ProseForms.Proofs.Encoding.Field

/-!
# Answers and edits are restored

Encoded answers and edits are read back, and they never open more than three arrays and
objects at once, whatever they hold.

* `Answers.get?_ofList` says that the last answer of a key counts, and so the answers that a
  list was made from are those that it makes (`Answers.ofList_toList`).
* A set of options is the set of its options in order.
-/

namespace ProseForms

namespace Answer

/-- The multiple answer with some options, in any order and number. -/
def ofOptions (options : List String) : Answer :=
  .multiple (.ofList options)

theorem ofOptions_toList (options : OptionSet) : ofOptions options.toList = multiple options := by
  refine congrArg multiple (Std.ExtTreeSet.ext_mem fun option => ?_)
  rw [Std.ExtTreeSet.mem_ofList, List.contains_iff_mem, Std.ExtTreeSet.mem_toList]

theorem restored (answer : Answer) :
    Restored JsonForm.toJson JsonForm.ofJson? answer := by
  cases answer with
  | single kind text =>
      exact kind.restored.taggedPair (restored_text text) Json.isPair_array rfl fun _ _ _ => rfl
  | multiple options =>
      have hlist : Restored (Json.ofList .text) (Json.list? Json.leafText?) options.toList :=
        .list fun option _ => restored_text option
      have hwrite : JsonForm.toJson (ofOptions options.toList) =
          .tagged "MultipleValues" (Json.ofList .text options.toList) := by
        rw [ofOptions_toList]
        rfl
      rw [← ofOptions_toList]
      exact hlist.tagged hwrite fun _ _ => rfl

/-- The object of an answer holds one array. -/
theorem depth_le (answer : Answer) : (JsonForm.toJson answer).depth ≤ 2 := by
  cases answer <;> simp [JsonForm.toJson]

end Answer

namespace Answers

theorem ofList_concat (entries : List (String × Answer)) (key : String) (answer : Answer) :
    ofList (entries ++ [(key, answer)]) = (ofList entries).insert key answer :=
  List.foldl_concat ..

/-- The last answer of a key counts. -/
theorem get?_ofList (entries : List (String × Answer)) (key : String) :
    (ofList entries).get? key = (entries.findRev? (·.1 = key)).map Prod.snd := by
  rw [List.findRev?_eq_find?_reverse]
  induction entries using List.reverseRecOn with
  | nil => exact get?_empty key
  | append_singleton entries last ih =>
      obtain ⟨k, answer⟩ := last
      rw [ofList_concat, get?_insert, List.reverse_concat, List.find?_cons, ih]
      by_cases h : k = key <;> simp [h]

theorem mem_toList {answers : Answers} {key : String} {answer : Answer} :
    (key, answer) ∈ answers.toList ↔ answers.get? key = some answer :=
  Std.ExtTreeMap.mem_toList_iff_getElem?_eq_some

/-- Some answers are made from their entries. -/
theorem ofList_toList (answers : Answers) : ofList answers.toList = answers := by
  ext key answer
  rw [get?_ofList, List.findRev?_eq_find?_reverse]
  cases hfind : answers.toList.reverse.find? (·.1 = key) with
  | none =>
      have habsent : answers.get? key = none := by
        refine Option.eq_none_iff_forall_ne_some.2 fun held hheld => ?_
        have hmem := List.mem_reverse.2 (mem_toList.2 hheld)
        exact List.find?_eq_none.1 hfind _ hmem (decide_eq_true rfl)
      simp [habsent]
  | some entry =>
      obtain ⟨k, held⟩ := entry
      have hkey : k = key := by simpa using List.find?_some hfind
      have hheld : answers.get? key = some held := by
        rw [← mem_toList, ← hkey, ← List.mem_reverse]
        exact List.mem_of_find?_eq_some hfind
      simp [hheld]

theorem restored (answers : Answers) :
    Restored JsonForm.toJson JsonForm.ofJson? answers := by
  refine ⟨Json.spelled_record.2 (List.forall_mem_map.2 fun entry _ => entry.2.restored.1),
    fun room hroom => ?_⟩
  obtain ⟨inner, rfl, hdepth⟩ := Json.depth_record_le.1 hroom
  have hwritten : JsonForm.toJson answers =
      .object (answers.toList.map fun entry => (some entry.1, JsonForm.toJson entry.2)) :=
    congrArg Json.object (List.map_map ..)
  have hentries : (answers.toList.map fun entry => (some entry.1, JsonForm.toJson entry.2)).mapM
      (entryOfJson? inner) = some answers.toList := by
    refine mapM_map_eq_some fun entry hentry => ?_
    have hanswer : (JsonForm.toJson entry.2).depth ≤ inner :=
      hdepth (entry.1, _) (List.mem_map.2 ⟨entry, hentry, rfl⟩)
    rw [entryOfJson?, entry.2.restored.2 inner hanswer]
    rfl
  rw [hwritten]
  show Option.map ofList (List.mapM _ _) = some answers
  rw [hentries, Option.map_some, ofList_toList]

/-- The object of some answers holds their objects. -/
theorem depth_le (answers : Answers) : (JsonForm.toJson answers).depth ≤ 3 :=
  Json.depth_record_le.2 ⟨2, rfl, List.forall_mem_map.2 fun entry _ => entry.2.depth_le⟩

end Answers

namespace Edit

theorem restored (edit : Edit) :
    Restored JsonForm.toJson JsonForm.ofJson? edit := by
  cases edit with
  | text kind key value =>
      refine ⟨?_, fun room hroom => ?_⟩
      · simp [JsonForm.toJson, Json.spelled_tagged, Json.spelled_record, Json.spelled_text]
      · have hopen : 2 ≤ room := hroom
        obtain ⟨inner, rfl⟩ := Nat.exists_eq_add_of_le' hopen
        cases kind <;> rfl
  | tick key option checked =>
      refine ⟨?_, fun room hroom => ?_⟩
      · simp [JsonForm.toJson, Json.spelled_tagged, Json.spelled_record, Json.spelled_text,
          Json.spelled_bool]
      · have hopen : 2 ≤ room := hroom
        obtain ⟨inner, rfl⟩ := Nat.exists_eq_add_of_le' hopen
        rfl

/-- The object of an edit holds one object. -/
theorem depth_le (edit : Edit) : (JsonForm.toJson edit).depth ≤ 2 := by
  cases edit <;> simp [JsonForm.toJson]

end Edit

end ProseForms
