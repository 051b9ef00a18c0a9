/-!
# A linear congruential generator

Sampling has to give the same documents for the same seed everywhere, so it
draws from a generator of its own: a 64-bit word that each draw multiplies and
increments, modulo `2 ^ 64`.
-/

namespace ProseForms.Sample

/-- The state of the generator. -/
structure Lcg where
  state : UInt64
deriving DecidableEq

/-- A computation that draws numbers. -/
abbrev Gen (α : Type) : Type :=
  StateM Lcg α

namespace Lcg

/-- A generator seeded from bytes by the FNV-1a hash. -/
def ofBytes (bytes : List UInt8) : Lcg :=
  ⟨bytes.foldl (fun hash byte => (hash ^^^ byte.toUInt64) * 0x100000001b3)
    0xcbf29ce484222325⟩

/-- The generator after a draw. -/
def advance (lcg : Lcg) : Lcg :=
  ⟨lcg.state * 6364136223846793005 + 1⟩

/-- Draws a word: the whole state. -/
def next : Gen UInt64 := fun lcg =>
  (lcg.advance.state, lcg.advance)

/-- Draws a number below a bound, from the upper half of the state.  Below zero
there is none: the answer is zero, and nothing is drawn. -/
def below (bound : UInt64) : Gen UInt64 :=
  if bound = 0 then return 0
  else do
    let word ← next
    return (word >>> 32) % bound

/-- Draws a truth value. -/
def flip : Gen Bool := do
  return (← below 2) = 1

/-- Draws an item of a list; from the empty list nothing is drawn. -/
def pick {α : Type} (items : List α) : Gen (Option α) :=
  if items.isEmpty then return none
  else do
    let index ← below (UInt64.ofNat items.length)
    return items[index.toNat]?

/-- Runs a computation a number of times and collects what it yields. -/
def times {α : Type} : Nat → Gen α → Gen (List α)
  | 0, _ => return []
  | count + 1, gen => do
      let first ← gen
      let rest ← times count gen
      return first :: rest

end Lcg

end ProseForms.Sample
