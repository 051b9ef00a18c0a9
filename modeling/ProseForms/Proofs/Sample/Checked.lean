import ProseForms.Sample.Document

/-!
# Sampling with checked arithmetic

The generators of documents once more, on machine words: the depth is a word from which one
is taken on the way down, and whatever a word cannot hold is a fault.  Every depth chooses
from the same alternatives here, so nothing but the number that is drawn keeps a generator
from going below depth zero.

Words, fields and the like compute with nothing but the numbers that they draw, and
`Checked.ofGen` takes them over as they are.
-/

namespace ProseForms.Sample

/-- What arithmetic on machine words refuses to do. -/
inductive Fault where
  /-- A sum that does not fit into a word. -/
  | overflow
  /-- A difference below zero. -/
  | underflow
  /-- A number that does not fit into a shorter word. -/
  | truncation
  /-- A remainder by zero. -/
  | zeroDivisor

/-- A computation that draws numbers and can end in a fault. -/
abbrev Checked (α : Type) : Type :=
  StateT Lcg (Except Fault) α

namespace Checked

variable {α : Type}

/-- A computation that computes with nothing but draws. -/
def ofGen (gen : Gen α) : Checked α :=
  fun lcg => .ok (gen lcg)

/-! ## Arithmetic -/

/-- A value that is only there under a condition. -/
def demand (fault : Fault) (c : Prop) [Decidable c] (value : c → α) : Checked α :=
  if h : c then pure (value h) else throw fault

/-- The sum of two words. -/
def add (a b : UInt64) : Checked UInt64 :=
  demand .overflow (a.toNat + b.toNat < UInt64.size) fun _ => a + b

/-- The sum of two octets. -/
def addOctets (a b : UInt8) : Checked UInt8 :=
  demand .overflow (a.toNat + b.toNat < UInt8.size) fun _ => a + b

/-- A word as an octet. -/
def octet (word : UInt64) : Checked UInt8 :=
  demand .truncation (word.toNat < UInt8.size) fun _ => word.toUInt8

/-- The remainder of one word by another. -/
def remainder (a b : UInt64) : Checked UInt64 :=
  demand .zeroDivisor (b ≠ 0) fun _ => a % b

/-- One less than a depth. -/
def pred (depth : UInt64) : Checked { deeper : UInt64 // deeper.toNat < depth.toNat } :=
  demand .underflow (1 ≤ depth) fun h => ⟨depth - 1, by
    have hle : 1 ≤ depth.toNat := UInt64.le_iff_toNat_le.1 h
    have hsub : (depth - 1).toNat = depth.toNat - 1 := UInt64.toNat_sub_of_le depth 1 h
    omega⟩

/-! ## Generators -/

/-- Draws a number below a bound, as `Lcg.below` does. -/
def below (bound : UInt64) : Checked UInt64 :=
  if bound = 0 then return 0
  else do
    let word ← ofGen Lcg.next
    remainder (word >>> 32) bound

/-- Runs a computation a number of times and collects what it yields. -/
def times : Nat → Checked α → Checked (List α)
  | 0, _ => return []
  | count + 1, item => do
      let first ← item
      let rest ← times count item
      return first :: rest

/-- Runs a computation at least once, and at most as often as a bound says. -/
def oneOrMore (bound : UInt64) (item : Checked α) : Checked (List α) := do
  let count ← add 1 (← below bound)
  times count.toNat item

/-- Draws an inline at a depth. -/
def inline (depth : UInt64) : Checked Inline := do
  let choice ← below (if depth = 0 then 6 else 10)
  match choice.toNat with
  | 0 => return .str (← ofGen word)
  | 1 => return .space
  | 2 => return .softBreak
  | 3 => return .lineBreak
  | 4 => return .code (← ofGen word)
  | 5 => return .formField (← ofGen field)
  | 6 =>
    let deeper ← pred depth
    return .emph (← oneOrMore 4 (inline deeper))
  | 7 =>
    let deeper ← pred depth
    return .strong (← oneOrMore 4 (inline deeper))
  | 8 =>
    let deeper ← pred depth
    let body ← oneOrMore 4 (inline deeper)
    return .link body (.reference (← ofGen word) none)
  | _ =>
    let deeper ← pred depth
    return .image (← oneOrMore 4 (inline deeper)) "img.png"
termination_by depth.toNat
decreasing_by all_goals exact deeper.property

/-- Draws one to four inlines at a depth. -/
def inlines (depth : UInt64) : Checked (List Inline) :=
  oneOrMore 4 (inline depth)

/-- Draws a header, whose level is an octet. -/
def header : Checked Block := do
  let level ← addOctets 1 (← octet (← below 6))
  return .header level (← inlines 1)

/-- Draws a block at a depth. -/
def block (depth : UInt64) : Checked Block := do
  let choice ← below (if depth = 0 then 3 else 7)
  match choice.toNat with
  | 0 => return .paragraph (← inlines 1)
  | 1 =>
    let first ← ofGen word
    return .codeBlock [first, ← ofGen word]
  | 2 => return .rule
  | 3 => header
  | 4 =>
    let body ← oneOrMore 2 do
      let deeper ← pred depth
      block deeper
    return .blockquote body
  | 5 =>
    let kind ← ofGen listKind
    let bodies ← oneOrMore 3 do
      let deeper ← pred depth
      block deeper
    return .list kind (bodies.map fun body => [body])
  | _ => ofGen linkReference
termination_by depth.toNat
decreasing_by all_goals exact deeper.property

/-- Draws a document of at least one block and at most a number of them. -/
def document (maxBlocks : UInt64) : Checked Document := do
  return ⟨← oneOrMore (max maxBlocks 1) (block 2)⟩

end Checked

end ProseForms.Sample
