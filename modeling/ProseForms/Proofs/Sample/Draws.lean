import ProseForms.Sample.Lcg

/-!
# What draws yield

Nothing is known about the state of a generator when a draw begins, so a property of what is
drawn has to hold for every state.  `Yields` says this of a computation, and it is built up
along the computation: what a part yields is all that the next part has to know of it.

* `yields_below` and `yields_below_half` bound the numbers that are drawn.
* `yields_pick` and `Yields.times` are about items and lists.
-/

namespace ProseForms.Sample

/-- In every state of the generator, the computation yields something with a property. -/
def Yields {α : Type} (gen : Gen α) (p : α → Prop) : Prop :=
  ∀ lcg, p (gen lcg).1

namespace Yields

variable {α β : Type} {p q : α → Prop} {r : β → Prop} {gen : Gen α}

theorem imp (h : Yields gen p) (hpq : ∀ a, p a → q a) : Yields gen q :=
  fun lcg => hpq _ (h lcg)

theorem any (gen : Gen α) : Yields gen fun _ => True :=
  fun _ => trivial

theorem pure {a : α} (h : p a) : Yields (Pure.pure a) p :=
  fun _ => h

theorem bind {next : α → Gen β} (h : Yields gen p) (hnext : ∀ a, p a → Yields (next a) r) :
    Yields (gen >>= next) r :=
  fun lcg => hnext _ (h lcg) (gen lcg).2

theorem ite {c : Prop} [Decidable c] {yes no : Gen α} (hyes : c → Yields yes p)
    (hno : ¬c → Yields no p) : Yields (if c then yes else no) p := by
  split
  · exact hyes ‹_›
  · exact hno ‹_›

/-- A computation that is run a number of times yields as many items. -/
theorem times (h : Yields gen p) (count : Nat) :
    Yields (Lcg.times count gen) fun items => items.length = count ∧ ∀ item ∈ items, p item := by
  induction count with
  | zero => exact pure ⟨rfl, nofun⟩
  | succ count ih =>
      refine h.bind fun first hfirst => ih.bind fun rest hrest => pure ⟨?_, ?_⟩
      · rw [List.length_cons, hrest.1]
      · exact List.forall_mem_cons.2 ⟨hfirst, hrest.2⟩

end Yields

namespace Lcg

theorem below_eq {bound : UInt64} (h : bound ≠ 0) :
    below bound = do return ((← next) >>> 32) % bound :=
  if_neg h

/-- A number that is drawn below a bound is below it. -/
theorem yields_below {bound : UInt64} (h : bound ≠ 0) : Yields (below bound) (· < bound) := by
  rw [below_eq h]
  refine (Yields.any next).bind fun word _ => .pure ?_
  exact UInt64.mod_lt _ (UInt64.pos_iff_ne_zero.2 h)

/-- Whatever the bound is, only half of a word is drawn. -/
theorem yields_below_half (bound : UInt64) :
    Yields (below bound) fun number => number.toNat < UInt32.size := by
  by_cases h : bound = 0
  · rw [below, if_pos h]
    exact .pure (by decide)
  · rw [below_eq h]
    refine (Yields.any next).bind fun word _ => .pure ?_
    have hhalf : (word >>> 32).toNat = word.toNat / UInt32.size := by
      rw [UInt64.toNat_shiftRight, Nat.shiftRight_eq_div_pow]
      rfl
    have hword : word.toNat < UInt32.size * UInt32.size := word.toNat_lt
    have hmod : (word >>> 32).toNat % bound.toNat ≤ (word >>> 32).toNat := Nat.mod_le _ _
    rw [UInt64.toNat_mod]
    unfold UInt32.size at *
    omega

/-- A picked item is an item of the list. -/
theorem yields_pick {α : Type} (items : List α) :
    Yields (pick items) fun picked? => ∀ item, picked? = some item → item ∈ items := by
  refine .ite (fun _ => .pure nofun) fun _ => ?_
  refine (Yields.any _).bind fun index _ => .pure fun item hitem => ?_
  exact List.mem_of_getElem? hitem

end Lcg

end ProseForms.Sample
