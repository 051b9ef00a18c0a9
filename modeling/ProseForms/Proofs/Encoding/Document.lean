import ProseForms.Encoding.Document
import ProseForms.Proofs.Encoding.Field

/-!
# Documents are restored

Encoded inlines, blocks and documents are read back, and what was read as one of them fits
when it is written again.

* The readers of lists are `Json.list?` of the readers of their items, and the writers are
  `Json.ofList` of the writers.
* What is restored is shown along the constructors, and what fits by induction on the room,
  because a reader passes less room to the readers of the parts.
-/

namespace ProseForms

namespace ListKind

theorem restored (kind : ListKind) :
    Restored JsonForm.toJson JsonForm.ofJson? kind := by
  cases kind <;> exact ⟨Json.spelled_text _, fun _ _ => rfl⟩

theorem fits {room : Nat} : Fits (JsonForm.toJson : ListKind → Json) JsonForm.ofJson? room := by
  rintro j (_ | _) - <;> exact Nat.zero_le room

end ListKind

namespace LinkTarget

/-- A reference is read like any alternative with two parts. -/
theorem ofJson?_reference (room : Nat) (label url : Json) :
    JsonForm.ofJson? (room + 2) (.tagged "Reference" (.array [label, url])) =
      (Json.leafText? room label).bind fun label =>
        (Json.nullable? Json.leafText? room url).bind fun url => some (reference label url) := by
  show (label.text?.bind fun label => _) = label.text?.bind fun label => _
  congr 1
  funext label
  cases url with
  | string url => cases url <;> rfl
  | null | bool _ | number _ | array _ | object _ => rfl

theorem restored (target : LinkTarget) :
    Restored JsonForm.toJson JsonForm.ofJson? target := by
  cases target with
  | inline url => exact (restored_text url).tagged rfl fun _ _ => rfl
  | reference label url =>
      exact (restored_text label).taggedPair
        (Restored.nullable (fun url _ => restored_text url) nofun) Json.isPair_array rfl
        ofJson?_reference

theorem fits {room : Nat} : Fits (JsonForm.toJson : LinkTarget → Json) JsonForm.ofJson? room := by
  intro j target hread
  obtain ⟨inner, rfl, htarget⟩ := Json.opening_eq_some_iff.1 hread
  split at htarget
  · exact fits_text.tagged htarget fun _ => rfl
  · rename_i label url _
    obtain ⟨innermost, rfl, hparts⟩ := Json.opening_eq_some_iff.1 htarget
    exact fits_text.taggedPair fits_text.nullable Json.isPair_array
      ((ofJson?_reference innermost label url).symm.trans hparts) fun _ _ => rfl
  · cases htarget

end LinkTarget

/-! ## Inlines -/

namespace Inline

theorem toJsons_eq_map (inlines : List Inline) : toJsons inlines = inlines.map toJson := by
  induction inlines with
  | nil => rfl
  | cons first rest ih => rw [toJsons, ih, List.map_cons]

theorem array_toJsons : (fun inlines => Json.array (toJsons inlines)) = Json.ofList toJson :=
  funext fun inlines => congrArg Json.array (toJsons_eq_map inlines)

theorem listOfJson?_eq : listOfJson? = Json.list? ofJson? := by
  funext room j
  cases room with
  | zero => rfl
  | succ room => cases j <;> rfl

theorem restored_list {inlines : List Inline}
    (h : ∀ inline ∈ inlines, Restored toJson ofJson? inline) :
    Restored (fun inlines => Json.array (toJsons inlines)) listOfJson? inlines := by
  rw [array_toJsons, listOfJson?_eq]
  exact .list h

theorem fits_list {room : Nat} (h : Fits toJson ofJson? (room - 1)) :
    Fits (fun inlines => Json.array (toJsons inlines)) listOfJson? room := by
  rw [array_toJsons, listOfJson?_eq]
  exact h.list

mutual

theorem restored : ∀ inline, Restored toJson ofJson? inline
  | .str s | .entity s | .code s => (restored_text s).tagged rfl fun _ _ => rfl
  | .space | .softBreak | .lineBreak =>
      ⟨Json.spelled_text _, fun room _ => by cases room <;> rfl⟩
  | .emph body | .strong body =>
      (restored_list (restored_of_mem body)).tagged rfl fun _ _ => rfl
  | .link body target =>
      (restored_list (restored_of_mem body)).taggedPair target.restored Json.isPair_array rfl
        fun _ _ _ => rfl
  | .image body url =>
      (restored_list (restored_of_mem body)).taggedPair (restored_text url) Json.isPair_array rfl
        fun _ _ _ => rfl
  | .formField field => field.restored.tagged rfl fun _ _ => rfl
termination_by structural inline => inline

theorem restored_of_mem : ∀ inlines : List Inline, ∀ inline ∈ inlines,
    Restored toJson ofJson? inline
  | [] => nofun
  | first :: rest => List.forall_mem_cons.2 ⟨restored first, restored_of_mem rest⟩
termination_by structural inlines => inlines

end

/-- An inline without content opens nothing. -/
theorem depth_of_ofName? {name : String} {inline : Inline} (h : ofName? name = some inline) :
    (toJson inline).depth = 0 := by
  unfold ofName? at h
  split at h <;> cases h <;> rfl

theorem fits {room : Nat} : Fits toJson ofJson? room := by
  -- What a body holds has two less room than the inline, and three less in a pair.
  induction room using Nat.strongRecOn with
  | ind room ih =>
      intro j inline
      fun_cases ofJson? room j with
      | case1 name | case13 inner name =>
          intro hname
          rw [depth_of_ofName? hname]
          exact Nat.zero_le _
      | case3 inner str | case4 inner entity | case7 inner code =>
          intro htext
          exact fits_text.tagged htext fun _ => rfl
      | case5 inner emph | case6 inner strong =>
          intro hbody
          exact (fits_list (ih _ (by omega))).tagged hbody fun _ => rfl
      | case9 body target inner =>
          intro hlink
          exact (fits_list (ih _ (by omega))).taggedPair LinkTarget.fits Json.isPair_array
            hlink fun _ _ => rfl
      | case11 body url inner =>
          intro himage
          exact (fits_list (ih _ (by omega))).taggedPair fits_text Json.isPair_array
            himage fun _ _ => rfl
      | case12 inner field =>
          intro hfield
          exact FormField.fits.tagged hfield fun _ => rfl
      -- There is no room, or no inline has such a form.
      | case2 | case8 | case10 | case14 | case15 => nofun

end Inline

/-! ## Blocks -/

/-- The level of a header is read back. -/
theorem restored_octet (n : UInt8) :
    Restored (fun n : UInt8 => .nat n.toNat) (fun _ => Json.octet?) n := by
  refine ⟨Json.spelled_nat _, fun _ _ => ?_⟩
  have hnumber : Text.natural? (Nat.toDigits 10 n.toNat) = some n.toNat := by
    have hdigits : (Nat.toDigits 10 n.toNat).all Char.isDigit = true :=
      List.all_eq_true.2 fun c hc =>
        Nat.isDigit_of_mem_toDigits (by decide) (by decide) hc
    rw [Text.natural?, if_pos ⟨Nat.toDigits_ne_nil, hdigits⟩, Nat.ofDigitChars_ten_toDigits]
  simp [Json.nat, Json.octet?, hnumber, UInt8.toNat_lt_size]

theorem fits_octet {room : Nat} :
    Fits (fun n : UInt8 => .nat n.toNat) (fun _ => Json.octet?) room :=
  fun _ _ _ => Nat.zero_le room

namespace Block

theorem toJsons_eq_map (blocks : List Block) : toJsons blocks = blocks.map toJson := by
  induction blocks with
  | nil => rfl
  | cons first rest ih => rw [toJsons, ih, List.map_cons]

theorem array_toJsons : (fun blocks => Json.array (toJsons blocks)) = Json.ofList toJson :=
  funext fun blocks => congrArg Json.array (toJsons_eq_map blocks)

theorem listOfJson?_eq : listOfJson? = Json.list? ofJson? := by
  funext room j
  cases room with
  | zero => rfl
  | succ room => cases j <;> rfl

theorem itemsToJsons_eq_map (items : List (List Block)) :
    itemsToJsons items = items.map fun blocks => .array (toJsons blocks) := by
  induction items with
  | nil => rfl
  | cons first rest ih => rw [itemsToJsons, ih, List.map_cons]

theorem array_itemsToJsons :
    (fun items => Json.array (itemsToJsons items)) =
      Json.ofList fun blocks => .array (toJsons blocks) :=
  funext fun items => congrArg Json.array (itemsToJsons_eq_map items)

theorem itemsOfJson?_eq : itemsOfJson? = Json.list? listOfJson? := by
  funext room j
  cases room with
  | zero => rfl
  | succ room => cases j <;> rfl

theorem restored_list {blocks : List Block}
    (h : ∀ block ∈ blocks, Restored toJson ofJson? block) :
    Restored (fun blocks => Json.array (toJsons blocks)) listOfJson? blocks := by
  rw [array_toJsons, listOfJson?_eq]
  exact .list h

theorem fits_list {room : Nat} (h : Fits toJson ofJson? (room - 1)) :
    Fits (fun blocks => Json.array (toJsons blocks)) listOfJson? room := by
  rw [array_toJsons, listOfJson?_eq]
  exact h.list

theorem restored_items {items : List (List Block)}
    (h : ∀ blocks ∈ items, ∀ block ∈ blocks, Restored toJson ofJson? block) :
    Restored (fun items => Json.array (itemsToJsons items)) itemsOfJson? items := by
  rw [array_itemsToJsons, itemsOfJson?_eq]
  exact .list fun blocks hblocks => restored_list (h blocks hblocks)

theorem fits_items {room : Nat} (h : Fits toJson ofJson? (room - 1 - 1)) :
    Fits (fun items => Json.array (itemsToJsons items)) itemsOfJson? room := by
  rw [array_itemsToJsons, itemsOfJson?_eq]
  exact (fits_list h).list

mutual

theorem restored : ∀ block, Restored toJson ofJson? block
  | .paragraph body =>
      (Inline.restored_list (Inline.restored_of_mem body)).tagged rfl fun _ _ => rfl
  | .header level body =>
      (restored_octet level).taggedPair (Inline.restored_list (Inline.restored_of_mem body))
        Json.isPair_array rfl fun _ _ _ => rfl
  | .blockquote body => (restored_list (restored_of_mem body)).tagged rfl fun _ _ => rfl
  | .list kind items =>
      kind.restored.taggedPair (restored_items (restored_of_mem_items items)) Json.isPair_array
        rfl fun _ _ _ => rfl
  | .codeBlock lines =>
      (Restored.list fun line _ => restored_text line).tagged rfl fun _ _ => rfl
  | .linkReference label url =>
      (restored_text label).taggedPair (restored_text url) Json.isPair_array rfl
        fun _ _ _ => rfl
  | .rule => ⟨Json.spelled_text _, fun room _ => by cases room <;> rfl⟩
termination_by structural block => block

theorem restored_of_mem : ∀ blocks : List Block, ∀ block ∈ blocks, Restored toJson ofJson? block
  | [] => nofun
  | first :: rest => List.forall_mem_cons.2 ⟨restored first, restored_of_mem rest⟩
termination_by structural blocks => blocks

theorem restored_of_mem_items : ∀ items : List (List Block), ∀ blocks ∈ items, ∀ block ∈ blocks,
    Restored toJson ofJson? block
  | [] => nofun
  | first :: rest =>
      List.forall_mem_cons.2 ⟨restored_of_mem first, restored_of_mem_items rest⟩
termination_by structural items => items

end

theorem fits {room : Nat} : Fits toJson ofJson? room := by
  -- What the items of a list hold has even four less room than the block.
  induction room using Nat.strongRecOn with
  | ind room ih =>
      intro j block
      fun_cases ofJson? room j with
      | case1 | case10 =>
          rintro ⟨⟩
          exact Nat.zero_le _
      | case3 inner body =>
          intro hparagraph
          exact (Inline.fits_list Inline.fits).tagged hparagraph fun _ => rfl
      | case4 outer level body =>
          intro hheader
          obtain ⟨inner, rfl, hparts⟩ := Json.opening_eq_some_iff.1 hheader
          exact fits_octet.taggedPair (Inline.fits_list Inline.fits) Json.isPair_array hparts
            fun _ _ => rfl
      | case5 inner body =>
          intro hblockquote
          exact (fits_list (ih _ (by omega))).tagged hblockquote fun _ => rfl
      | case7 kind items inner =>
          intro hlist
          exact ListKind.fits.taggedPair (fits_items (ih _ (by omega))) Json.isPair_array
            hlist fun _ _ => rfl
      | case8 inner lines =>
          intro hcodeBlock
          exact (Fits.list fits_text).tagged hcodeBlock fun _ => rfl
      | case9 outer label url =>
          intro hlinkReference
          obtain ⟨inner, rfl, hparts⟩ := Json.opening_eq_some_iff.1 hlinkReference
          exact fits_text.taggedPair fits_text Json.isPair_array hparts fun _ _ => rfl
      -- There is no room, or no block has such a form.
      | case2 | case6 | case11 | case12 => nofun

end Block

namespace Document

theorem restored (doc : Document) :
    Restored JsonForm.toJson JsonForm.ofJson? doc := by
  have hblocks := Block.restored_list (Block.restored_of_mem doc.blocks)
  refine ⟨hblocks.1, fun room hroom => ?_⟩
  show (Block.listOfJson? room (.array (Block.toJsons doc.blocks))).map Document.mk = some doc
  rw [hblocks.2 room hroom]
  rfl

theorem fits {room : Nat} : Fits (JsonForm.toJson : Document → Json) JsonForm.ofJson? room := by
  intro j doc hread
  obtain ⟨blocks, hblocks, rfl⟩ := Option.map_eq_some_iff.1 hread
  exact Block.fits_list Block.fits hblocks

end Document

end ProseForms
