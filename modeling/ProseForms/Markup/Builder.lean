import ProseForms.Markup.Element

/-!
# Builders

Rendering does not fix what markup is made of.  A builder says how a text and an
element with finished children become a node of the host.
-/

namespace ProseForms

/-- How nodes of a host are made. -/
structure Builder (N : Type) where
  text : String → N
  element : Element → List N → N

/-- The size of some markup. -/
structure Measure where
  elements : Nat
  texts : Nat
  height : Nat
deriving DecidableEq

/-- The size of an element over children of known sizes. -/
def Measure.above (children : List Measure) : Measure where
  elements := 1 + (children.map Measure.elements).foldl (· + ·) 0
  texts := (children.map Measure.texts).foldl (· + ·) 0
  height := 1 + (children.map Measure.height).foldl max 0

/-- Builds nothing but the size of the markup. -/
def Builder.measure : Builder Measure where
  text _ := ⟨0, 1, 1⟩
  element _ := Measure.above

end ProseForms
