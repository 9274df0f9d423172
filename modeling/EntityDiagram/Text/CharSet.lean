/-!
# Sets of characters, as the places where membership changes

A class of characters taken from the character database is a long list of runs. Written as runs it
is two numbers per run and a question of overlap; written as the ascending list of positions at
which membership *changes* it is one number per edge and nothing can overlap. A character belongs
to the class when an odd number of edges lies at or below it.
-/

namespace EntityDiagram
namespace Text

/-- A set of characters, given by the ascending positions at which membership changes. The first
    position listed is the first member. -/
structure CharSet where
  flips : List Nat

def CharSet.contains (s : CharSet) (c : Char) : Bool :=
  (s.flips.takeWhile (· ≤ c.toNat)).length % 2 == 1

end Text
end EntityDiagram
