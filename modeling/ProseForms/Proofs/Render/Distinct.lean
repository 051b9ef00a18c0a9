import Mathlib.Data.List.Nodup
import ProseForms.Proofs.Render.IdNumbers

/-!
# Distinct ids

The ids that a rendering hands out are distinct, because every field takes its
numbers from a range of its own and the ranges follow one another.  The anchors of
link references take no number: their id is their label, which is whatever the
document says.

* `NumberedIn` says that the ids of some addresses ascend within a range of
  numbers; `numberedIn_flatMap` says so of fields one after the other.
* `controlIds_nodup_and_ids_nodup_iff` says that the controls of a rendering have
  distinct ids, and that all ids are distinct exactly when the labels of link
  references are distinct and none of them is the id of a control.
-/

namespace ProseForms

/-! ## Ascending numbers -/

/-- The ids of some addresses are those of ascending numbers from `lo` up to, and
without, `hi`, and none of the addresses is that of an anchor. -/
structure NumberedIn (idPrefix : String) (lo hi : Nat) (addresses : List Address) : Prop where
  ascending : ∃ numbers : List Nat, numbers.Pairwise (· < ·) ∧
    (∀ number ∈ numbers, lo ≤ number ∧ number < hi) ∧
    addresses.filterMap Address.id = numbers.map (idAt idPrefix)
  tag_ne : ∀ address ∈ addresses, address.tag ≠ .a

namespace NumberedIn

variable {idPrefix : String}

/-- Ascending numbers give distinct ids. -/
theorem nodup {lo hi : Nat} {addresses : List Address}
    (h : NumberedIn idPrefix lo hi addresses) :
    (addresses.filterMap Address.id).Nodup := by
  obtain ⟨numbers, hnumbers, _, hids⟩ := h.ascending
  rw [hids]
  exact (hnumbers.imp Nat.ne_of_lt).map _ fun _ _ hne heq => hne (idAt_injective idPrefix heq)

end NumberedIn

theorem FormField.LaidOutAt.tag_ne {field : FormField} {idPrefix : String}
    {answers : Answers} {base : Nat} {node : Node}
    (h : field.LaidOutAt idPrefix answers base node) :
    ∀ address ∈ node.addresses, address.tag ≠ .a := by
  unfold LaidOutAt at h
  cases hcontrol : field.spec.control? with
  | none =>
      rw [hcontrol] at h
      obtain rfl : node = .text Renderer.unsupportedText := h
      exact fun _ haddress => nomatch haddress
  | some control =>
      rw [hcontrol] at h
      cases control with
      | textBox kind default | dropDown options default =>
          rw [addresses_of_isSingleAt h]
          simp
      | radioButtons default options | checkBoxes flags options =>
          rw [addresses_of_isGroupAt h]
          intro address haddress
          obtain ⟨j, _, hj⟩ := List.mem_flatMap.1 haddress
          rcases List.mem_cons.1 hj with rfl | hj
          · simp
          · obtain rfl := List.mem_singleton.1 hj
            simp

/-- Fields that are laid out one after the other take numbers one after the other. -/
theorem numberedIn_flatMap {idPrefix : String} {answers : Answers} {fields : List FormField}
    {base : Nat} {node : Nat → FormField → Node}
    (h : ∀ i (field : FormField), fields[i]? = some field →
      field.LaidOutAt idPrefix answers (base + answers.widthOf (fields.take i)) (node i field)) :
    NumberedIn idPrefix base (base + answers.widthOf fields)
      ((fields.mapIdx node).flatMap Node.addresses) := by
  refine ⟨⟨answers.idNumbersOf base fields, answers.pairwise_idNumbersOf base fields,
    fun _ => answers.mem_idNumbersOf, ids_flatMap_eq h⟩, fun address haddress => ?_⟩
  obtain ⟨_, hnode, haddress⟩ := List.mem_flatMap.1 haddress
  obtain ⟨i, hi, rfl⟩ := List.mem_mapIdx.1 hnode
  exact (h i fields[i] (List.getElem?_eq_getElem hi)).tag_ne address haddress

/-! ## The ids of a document -/

namespace Document

variable (idPrefix : String) (answers : Answers) (doc : Document)

/-- The addresses in the shown fields of a rendered document, in document order. -/
def fieldAddresses : List Address :=
  (doc.shownFields.mapIdx
    ((Renderer.nodes idPrefix answers).standIn .start doc.shownFields)).flatMap Node.addresses

/-- The addresses in a rendered document are those of its link references and those
in its shown fields. -/
theorem addressesIn_render_perm :
    (Node.addressesIn (doc.render idPrefix answers)).Perm
      (doc.linkLabels.map Address.anchor ++ doc.fieldAddresses idPrefix answers) := by
  rw [Renderer.render_eq_fillAll]
  exact Renderer.addressesIn_fillAll_perm _ doc.blocks

/-- The shown fields are laid out from one on. -/
theorem laidOutAt_shownFields (h : answers.widthOf doc.shownFields < UInt32.size) (i : Nat)
    (field : FormField) (hfield : doc.shownFields[i]? = some field) :
    field.LaidOutAt idPrefix answers (1 + answers.widthOf (doc.shownFields.take i))
      ((Renderer.nodes idPrefix answers).standIn .start doc.shownFields i field) := by
  have hroom : IdSupply.start.next.toNat + answers.widthOf doc.shownFields ≤ UInt32.size := by
    show 1 + answers.widthOf doc.shownFields ≤ UInt32.size
    omega
  exact Renderer.laidOutAt_standIn hroom hfield

theorem numberedIn_fieldAddresses (h : answers.widthOf doc.shownFields < UInt32.size) :
    NumberedIn idPrefix 1 (1 + answers.widthOf doc.shownFields)
      (doc.fieldAddresses idPrefix answers) :=
  numberedIn_flatMap (laidOutAt_shownFields idPrefix answers doc h)

theorem ids_fieldAddresses (h : answers.widthOf doc.shownFields < UInt32.size) :
    (doc.fieldAddresses idPrefix answers).filterMap Address.id =
      (answers.idNumbersOf 1 doc.shownFields).map (idAt idPrefix) :=
  ids_flatMap_eq (laidOutAt_shownFields idPrefix answers doc h)

/-- The ids in a rendered document are the labels of its link references and the ids
in its shown fields. -/
theorem idsIn_render_perm :
    (Node.idsIn (doc.render idPrefix answers)).Perm
      (doc.linkLabels ++ (doc.fieldAddresses idPrefix answers).filterMap Address.id) := by
  have hperm := (addressesIn_render_perm idPrefix answers doc).filterMap Address.id
  have hlabels : (doc.linkLabels.map Address.anchor).filterMap Address.id = doc.linkLabels := by
    rw [List.filterMap_map]
    exact List.filterMap_some
  rw [List.filterMap_append, hlabels] at hperm
  rwa [Node.idsIn_eq]

/-- The ids of the controls in a rendered document are those in its shown fields. -/
theorem controlIdsIn_render_perm (h : answers.widthOf doc.shownFields < UInt32.size) :
    (Node.controlIdsIn (doc.render idPrefix answers)).Perm
      ((doc.fieldAddresses idPrefix answers).filterMap Address.id) := by
  have hperm := ((addressesIn_render_perm idPrefix answers doc).filter
    (·.tag ≠ .a)).filterMap Address.id
  have hlabels : (doc.linkLabels.map Address.anchor).filter (·.tag ≠ .a) = [] := by
    simp [Address.anchor]
  have hfields : (doc.fieldAddresses idPrefix answers).filter (·.tag ≠ .a) =
      doc.fieldAddresses idPrefix answers := by
    have htag := (numberedIn_fieldAddresses idPrefix answers doc h).tag_ne
    exact List.filter_eq_self.2 fun address haddress => by simp [htag address haddress]
  rw [List.filter_append, hlabels, hfields, List.nil_append] at hperm
  rwa [Node.controlIdsIn_eq]

/-- The controls of a rendering have distinct ids.  All its ids are distinct exactly
when the labels of its link references are, and no control has one as its id. -/
theorem controlIds_nodup_and_ids_nodup_iff
    (h : answers.widthOf doc.shownFields < UInt32.size) :
    let forest := doc.render idPrefix answers
    (Node.controlIdsIn forest).Nodup ∧
      ((Node.idsIn forest).Nodup ↔
        doc.linkLabels.Nodup ∧ ∀ label ∈ doc.linkLabels, label ∉ Node.controlIdsIn forest) := by
  intro forest
  have hids := idsIn_render_perm idPrefix answers doc
  have hcontrols := controlIdsIn_render_perm idPrefix answers doc h
  have hnodup := (numberedIn_fieldAddresses idPrefix answers doc h).nodup
  refine ⟨hcontrols.nodup_iff.2 hnodup, ?_⟩
  rw [hids.nodup_iff, List.nodup_append]
  constructor
  · rintro ⟨hlabels, _, hdisjoint⟩
    refine ⟨hlabels, fun label hlabel hcontrol => ?_⟩
    exact hdisjoint label hlabel label (hcontrols.mem_iff.1 hcontrol) rfl
  · rintro ⟨hlabels, hdisjoint⟩
    refine ⟨hlabels, hnodup, ?_⟩
    rintro label hlabel _ hfield rfl
    exact hdisjoint label hlabel (hcontrols.mem_iff.2 hfield)

/-- A link reference and a text box with different ids. -/
theorem ids_nodup_linkAndTextBox :
    let doc : Document := ⟨[.linkReference "here" "u",
      .paragraph [.formField ⟨"Name", false, .textBox .plainText none⟩]]⟩
    Answers.empty.widthOf doc.shownFields < UInt32.size ∧
      (Node.idsIn (doc.render "p" .empty)).Nodup := by
  intro doc
  have hroom : Answers.empty.widthOf doc.shownFields < UInt32.size := by decide
  exact ⟨hroom, (controlIds_nodup_and_ids_nodup_iff "p" .empty doc hroom).2.2 (by decide)⟩

/-- A link reference can have the id of a control as its label. -/
theorem ids_not_nodup :
    ¬ ∀ (idPrefix : String) (answers : Answers) (doc : Document),
      answers.widthOf doc.shownFields < UInt32.size →
        (Node.idsIn (doc.render idPrefix answers)).Nodup := by
  intro h
  have hnodup := h "p" .empty ⟨[.linkReference "p-1" "u",
    .paragraph [.formField ⟨"Name", false, .textBox .plainText none⟩]]⟩ (by decide)
  exact absurd hnodup (by decide)

end Document

end ProseForms
