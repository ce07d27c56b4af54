/-!
# Machine words

The bounds of the integers that fit 64 bits. Several formats admit an integer only within them.
-/

namespace Mandate

/-- The greatest word without a sign. -/
def wordMax : Nat := 0xffffffffffffffff

/-- The least word with a sign. -/
def lowestInt : Int := -0x8000000000000000

/-- The greatest word with a sign. -/
def highestInt : Int := 0x7fffffffffffffff

end Mandate
