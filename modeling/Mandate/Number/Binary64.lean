/-!
# Finite double-precision numbers

A finite double is kept as what it is, a signed integer multiple of a power of two, and every
operation is carried out exactly on natural numbers and then rounded once: to the nearest
double, a tie to the one with an even mantissa. No machine arithmetic is involved, so equality
is decidable and the rules can be reasoned about.
-/

namespace Mandate

/-- The finite double `± mantissa · 2 ^ (exponent - 1074)`. In the values built here the
mantissa is below `2 ^ 53`, and it is below `2 ^ 52` only if the exponent is zero. -/
structure Binary64 where
  negative : Bool
  mantissa : Nat
  exponent : Nat
  deriving DecidableEq, Repr, Inhabited

namespace Binary64

/-- The exponent of the largest finite doubles. -/
def maxExponent : Nat := 2045

/-- The doubles are integer multiples of `2 ^ (-scale)`. -/
def scale : Nat := 1074

/-- The number of binary digits of a mantissa. -/
def precision : Nat := 53

/-- Mantissa and exponent of the double nearest to `num / den`, a tie going to the even
mantissa. There is none if that lies beyond the largest finite double. -/
def nearest? (num den : Nat) : Option (Nat × Nat) :=
  let scaled := num <<< scale
  let shift := (scaled / den).log2 + 1 - precision
  let unit := den <<< shift
  let quotient := scaled / unit
  let twice := 2 * (scaled % unit)
  let up := unit < twice || (twice == unit && quotient % 2 == 1)
  let rounded := if up then quotient + 1 else quotient
  let (mantissa, exponent) :=
    if rounded = 1 <<< precision then (1 <<< (precision - 1), shift + 1) else (rounded, shift)
  if exponent ≤ maxExponent then some (mantissa, exponent) else none

/-- The double nearest to a signed quotient. -/
def ofRatio? (negative : Bool) (num den : Nat) : Option Binary64 :=
  (nearest? num den).map fun (mantissa, exponent) => ⟨negative, mantissa, exponent⟩

def zero : Binary64 := ⟨false, 0, 0⟩

/-- The double nearest to an integer below `2 ^ 1023`, as all machine integers are. -/
def ofInt (n : Int) : Binary64 :=
  (ofRatio? (n < 0) n.natAbs 1).getD zero

/-- The absolute value, as a numerator over `2 ^ scale`. -/
def numerator (x : Binary64) : Nat :=
  x.mantissa <<< x.exponent

/-- The value, as a signed numerator over `2 ^ scale`. Both zeros give zero. -/
def signed (x : Binary64) : Int :=
  if x.negative then -(x.numerator : Int) else x.numerator

def isZero (x : Binary64) : Bool :=
  x.mantissa == 0

/-- Whether the first number is smaller. The two zeros are equal. -/
def lt (x y : Binary64) : Bool :=
  x.signed < y.signed

/-- Whether the first number is smaller or equal. -/
def le (x y : Binary64) : Bool :=
  x.signed ≤ y.signed

/-- Multiply by a quotient of natural numbers, rounding once. -/
def mulRatio? (x : Binary64) (num den : Nat) : Option Binary64 :=
  ofRatio? x.negative (x.numerator * num) (den <<< scale)

/-- The integer that the number is, if it has no fractional part. -/
def toInt? (x : Binary64) : Option Int :=
  if x.numerator % (1 <<< scale) = 0 then
    let whole : Int := (x.numerator >>> scale : Nat)
    some (if x.negative then -whole else whole)
  else none

/-- The double nearest to `10 ^ k`, as a numerator over `2 ^ scale`; `k` is at most 308. -/
def powerOfTen (k : Nat) : Nat :=
  ((ofRatio? false (Nat.pow 10 k) 1).getD zero).numerator

end Binary64

end Mandate
