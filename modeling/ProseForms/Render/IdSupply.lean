/-!
# Element ids

The ids of one rendering are numbered from one in document order.  There is no
shared counter: the supply of numbers is a value that rendering passes along, so
an id depends only on what was rendered before it.
-/

namespace ProseForms

/-- The numbers that are left for ids. -/
structure IdSupply where
  /-- The number of the next id. -/
  next : UInt32 := 1
deriving DecidableEq

namespace IdSupply

/-- The supply that every rendering starts with. -/
def start : IdSupply := {}

/-- The id with a number, in the scope of a prefix. -/
def idOf (idPrefix : String) (number : UInt32) : String :=
  idPrefix ++ "-" ++ Nat.repr number.toNat

/-- The supply after its next number is taken. -/
def advance (supply : IdSupply) : IdSupply :=
  ⟨supply.next + 1⟩

/-- The next id and the supply after it. -/
def fresh (supply : IdSupply) (idPrefix : String) : String × IdSupply :=
  (idOf idPrefix supply.next, supply.advance)

end IdSupply

end ProseForms
