import Mathlib.Tactic.IntervalCases
import ProseForms.Proofs.Sample.Bounds
import ProseForms.Proofs.Sample.Checked

/-!
# Sampling meets no fault

On machine words the generators subtract from a depth, add to drawn numbers and shorten them.
None of it goes wrong, because of what the draws before yield: at depth zero no alternative
that goes deeper can be drawn, and a drawn number is short enough for what is done with it.

* `below_eq` and `oneOrMore_eq` are about numbers and lists of any bound.
* `inline_eq` and `block_eq` follow the depth down.
* `document_eq_ok` says that a document is drawn without a fault, and what it looks like.
-/

namespace ProseForms.Sample

namespace Checked

variable {α β : Type}

/-! ## Computations without a fault -/

@[simp] theorem ofGen_pure (a : α) : ofGen (pure a) = pure a :=
  funext fun _ => rfl

@[simp] theorem ofGen_bind (gen : Gen α) (next : α → Gen β) :
    ofGen (gen >>= next) = ofGen gen >>= fun a => ofGen (next a) :=
  funext fun _ => rfl

@[simp] theorem ofGen_map (f : α → β) (gen : Gen α) : ofGen (f <$> gen) = f <$> ofGen gen :=
  funext fun _ => rfl

/-- What the first part yields may be used to show that two second parts agree. -/
theorem ofGen_bind_congr {gen : Gen α} {p : α → Prop} {next next' : α → Checked β}
    (h : Yields gen p) (hnext : ∀ a, p a → next a = next' a) :
    ofGen gen >>= next = ofGen gen >>= next' :=
  funext fun lcg => congrFun (hnext _ (h lcg)) (gen lcg).2

theorem demand_eq {fault : Fault} {c : Prop} [Decidable c] {value : c → α} (h : c) :
    demand fault c value = pure (value h) :=
  dif_pos h

theorem below_eq (bound : UInt64) : below bound = ofGen (Lcg.below bound) := by
  by_cases h : bound = 0
  · rw [below, Lcg.below, if_pos h, if_pos h, ofGen_pure]
  · have hremainder : ∀ word, remainder word bound = pure (word % bound) := fun _ => demand_eq h
    rw [below, Lcg.below_eq h, if_neg h]
    simp only [hremainder, ofGen_bind, ofGen_pure]

theorem times_eq (count : Nat) (gen : Gen α) :
    times count (ofGen gen) = ofGen (Lcg.times count gen) := by
  induction count with
  | zero => rfl
  | succ count ih => simp only [times, Lcg.times, ih, ofGen_bind, ofGen_pure]

/-- A drawn number and one more fit into a word, because draws take half of one. -/
theorem oneOrMore_eq (bound : UInt64) (gen : Gen α) :
    oneOrMore bound (ofGen gen) =
      ofGen (do let count ← Lcg.below bound; Lcg.times (1 + count.toNat) gen) := by
  rw [oneOrMore, below_eq, ofGen_bind]
  refine ofGen_bind_congr (Lcg.yields_below_half bound) fun count hcount => ?_
  have hfits : (1 : UInt64).toNat + count.toNat < UInt64.size := by
    show 1 + count.toNat < UInt64.size
    unfold UInt32.size at hcount
    unfold UInt64.size
    omega
  have hsum : (1 + count).toNat = 1 + count.toNat := by
    rw [UInt64.toNat_add, Nat.mod_eq_of_lt hfits]
    rfl
  rw [add, demand_eq hfits, pure_bind, hsum, times_eq]

/-- A depth that is not zero has one below it. -/
theorem exists_pred_eq {depth : UInt64} {n : Nat} (h : depth.toNat = n + 1) :
    depth ≠ 0 ∧ ∃ deeper : { deeper : UInt64 // deeper.toNat < depth.toNat },
      deeper.val.toNat = n ∧ pred depth = pure deeper := by
  have hne : depth ≠ 0 := by
    rintro rfl
    exact Nat.succ_ne_zero n h.symm
  have hle : 1 ≤ depth := UInt64.le_iff_toNat_le.2 (by rw [h]; exact Nat.le_add_left 1 n)
  have hsub : (depth - 1).toNat = depth.toNat - 1 := UInt64.toNat_sub_of_le _ _ hle
  exact ⟨hne, _, by rw [hsub, h, Nat.add_sub_cancel], demand_eq hle⟩

/-- Every word below a bound is one of the numbers below it. -/
theorem forall_lt {p : UInt64 → Prop} {bound : UInt64}
    (h : ∀ i < bound.toNat, p (UInt64.ofNat i)) : ∀ word < bound, p word := by
  intro word hword
  have hp := h word.toNat hword
  rwa [UInt64.ofNat_toNat] at hp

/-- At depth zero only inlines that hold no others can be drawn, so the depth never goes
below zero. -/
theorem inline_eq : ∀ (n : Nat) (depth : UInt64), depth.toNat = n →
    inline depth = ofGen (Sample.inline n)
  | 0, depth, h => by
      obtain rfl : depth = 0 := UInt64.toNat.inj h
      rw [inline, Sample.inline, if_pos rfl, below_eq, ofGen_bind]
      refine ofGen_bind_congr (Lcg.yields_below (by decide)) (forall_lt fun i hi => ?_)
      have hlt : i < 6 := hi
      interval_cases i <;> simp [leafInline]
  | n + 1, depth, h => by
      obtain ⟨hne, deeper, hdeeper, hpred⟩ := exists_pred_eq h
      have hbody : oneOrMore 4 (inline deeper) = ofGen (someInlines (Sample.inline n)) := by
        rw [inline_eq n deeper hdeeper]
        exact oneOrMore_eq 4 (Sample.inline n)
      rw [inline, Sample.inline, if_neg hne, below_eq, ofGen_bind]
      refine ofGen_bind_congr (Lcg.yields_below (by decide)) (forall_lt fun i hi => ?_)
      have hlt : i < 10 := hi
      interval_cases i <;> simp [leafInline, hpred, hbody]

theorem inlines_eq : inlines 1 = ofGen (Sample.inlines 1) := by
  rw [inlines, inline_eq 1 1 rfl]
  exact oneOrMore_eq 4 (Sample.inline 1)

/-- The level of a header is small enough for an octet. -/
theorem header_eq : header = ofGen Sample.header := by
  have hbound : (6 : UInt64) ≠ 0 := by decide
  rw [header, below_eq, Sample.header, ofGen_bind]
  refine ofGen_bind_congr (Lcg.yields_below hbound) fun level hlevel => ?_
  have hlt : level.toNat < 6 := hlevel
  have htoNat : level.toUInt8.toNat = level.toNat := toNat_toUInt8_of_lt hlevel
  have hoctet : octet level = pure level.toUInt8 := demand_eq (by
    show level.toNat < 256
    omega)
  have hsum : addOctets 1 level.toUInt8 = pure (1 + level.toUInt8) := demand_eq (by
    show 1 + level.toUInt8.toNat < 256
    omega)
  simp [hoctet, hsum, inlines_eq]

/-- At depth zero neither quotes nor lists can be drawn, so the depth never goes below zero. -/
theorem block_eq : ∀ (n : Nat) (depth : UInt64), depth.toNat = n →
    block depth = ofGen (Sample.block n)
  | 0, depth, h => by
      obtain rfl : depth = 0 := UInt64.toNat.inj h
      rw [block, Sample.block, if_pos rfl, below_eq, ofGen_bind]
      refine ofGen_bind_congr (Lcg.yields_below (by decide)) (forall_lt fun i hi => ?_)
      have hlt : i < 3 := hi
      interval_cases i <;> simp [leafBlock, inlines_eq]
  | n + 1, depth, h => by
      obtain ⟨hne, deeper, hdeeper, hpred⟩ := exists_pred_eq h
      have hbody := block_eq n deeper hdeeper
      rw [block, Sample.block, if_neg hne, below_eq, ofGen_bind]
      refine ofGen_bind_congr (Lcg.yields_below (by decide)) (forall_lt fun i hi => ?_)
      have hlt : i < 7 := hi
      interval_cases i <;> simp [leafBlock, inlines_eq, header_eq, hpred, hbody, oneOrMore_eq]

theorem document_eq (maxBlocks : UInt64) :
    document maxBlocks = ofGen (Sample.document maxBlocks) := by
  rw [document, block_eq 2 2 rfl, oneOrMore_eq]
  simp [Sample.document]

end Checked

/-- Whatever the state of the generator and the bound on the blocks are, a document is drawn
without a fault.  It is the document that `document` draws, and it keeps the bounds of a
sample. -/
theorem document_eq_ok (maxBlocks : UInt64) (lcg : Lcg) :
    ∃ doc next, Checked.document maxBlocks lcg = .ok (doc, next) ∧
      document maxBlocks lcg = (doc, next) ∧ doc.IsSample maxBlocks.toNat := by
  refine ⟨(document maxBlocks lcg).1, (document maxBlocks lcg).2, ?_, rfl,
    yields_document maxBlocks lcg⟩
  rw [Checked.document_eq]
  rfl

end ProseForms.Sample
