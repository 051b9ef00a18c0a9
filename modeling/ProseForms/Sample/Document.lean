import ProseForms.Document.Basic
import ProseForms.Sample.Field

/-!
# Sample documents

Blocks nest at most two deep and inlines at most one deep below the top level:
at depth zero only the alternatives without further nesting are drawn.
-/

namespace ProseForms.Sample

/-- Draws an inline that holds no others. -/
def leafInline (choice : UInt64) : Gen Inline := do
  if choice = 0 then return .str (← word)
  else if choice = 1 then return .space
  else if choice = 2 then return .softBreak
  else if choice = 3 then return .lineBreak
  else if choice = 4 then return .code (← word)
  else return .formField (← field)

/-- Draws one to four times from a generator of inlines. -/
def someInlines (inline : Gen Inline) : Gen (List Inline) := do
  let count ← Lcg.below 4
  Lcg.times (1 + count.toNat) inline

/-- Draws an inline that nests to some depth. -/
def inline : Nat → Gen Inline
  | 0 => do leafInline (← Lcg.below 6)
  | depth + 1 => do
      let choice ← Lcg.below 10
      if choice = 6 then return .emph (← someInlines (inline depth))
      else if choice = 7 then return .strong (← someInlines (inline depth))
      else if choice = 8 then
        let body ← someInlines (inline depth)
        return .link body (.reference (← word) none)
      else if choice = 9 then return .image (← someInlines (inline depth)) "img.png"
      else leafInline choice

/-- Draws one to four inlines that nest to some depth. -/
def inlines (depth : Nat) : Gen (List Inline) :=
  someInlines (inline depth)

/-- Draws a block that holds no others, and is neither a header nor a link
reference. -/
def leafBlock (choice : UInt64) : Gen Block := do
  if choice = 0 then return .paragraph (← inlines 1)
  else if choice = 1 then
    let first ← word
    return .codeBlock [first, ← word]
  else return .rule

/-- Draws a header. -/
def header : Gen Block := do
  let level ← Lcg.below 6
  return .header (1 + level.toUInt8) (← inlines 1)

/-- Draws a link reference. -/
def linkReference : Gen Block := do
  let label ← word
  let page ← Lcg.below 9
  return .linkReference label ("http://example.com/" ++ Nat.repr page.toNat)

/-- Draws the kind of a list. -/
def listKind : Gen ListKind := do
  if ← Lcg.flip then return .bullet else return .ordered

/-- Draws a block that nests to some depth. -/
def block : Nat → Gen Block
  | 0 => do leafBlock (← Lcg.below 3)
  | depth + 1 => do
      let choice ← Lcg.below 7
      if choice = 3 then header
      else if choice = 4 then
        let count ← Lcg.below 2
        return .blockquote (← Lcg.times (1 + count.toNat) (block depth))
      else if choice = 5 then
        let kind ← listKind
        let count ← Lcg.below 3
        let bodies ← Lcg.times (1 + count.toNat) (block depth)
        return .list kind (bodies.map fun body => [body])
      else if choice = 6 then linkReference
      else leafBlock choice

/-- Draws a document of at least one block and at most a number of them. -/
def document (maxBlocks : UInt64) : Gen Document := do
  let count ← Lcg.below (max maxBlocks 1)
  return ⟨← Lcg.times (1 + count.toNat) (block 2)⟩

/-- Draws a document, and fewer edits than a bound. -/
def scenario (maxBlocks maxEdits : UInt64) : Gen (Document × List Edit) := do
  let doc ← document maxBlocks
  let count ← Lcg.below maxEdits
  return (doc, ← edits count.toNat)

end ProseForms.Sample
