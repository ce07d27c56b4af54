import Mandate.Number.Binary64

/-!
# Shortest decimal digits

The decimal text of a double has as few digits as still tell it from its neighbours. The reals
that round to a given double form an interval; for one digit, two digits and so on, the two
points of that decimal grid around the number are tested, and the first grid with a point in the
interval gives the digits, the nearer point if both qualify.
-/

namespace Mandate.Binary64

/-- Decimal digits with a decimal point: `0.digits · 10 ^ point`, where `digits` is written
without leading or trailing zeros. -/
structure Decimal where
  digits : Nat
  point : Int
  deriving DecidableEq, Repr, Inhabited

/-- The number of decimal digits. -/
def digitCount (n : Nat) : Nat :=
  (Nat.toDigits 10 n).length

/-- Remove trailing zeros. -/
def stripZeros : (fuel : Nat) → Nat → Nat
  | 0, n => n
  | fuel + 1, n => if n ≠ 0 ∧ n % 10 = 0 then stripZeros fuel (n / 10) else n

/-- The least `j`, counted from the given start, such that multiplying by `10 ^ (j + 1)` brings a
numerator up to the denominator. -/
def leadingZeros (den : Nat) : (fuel : Nat) → (num : Nat) → Nat
  | 0, _ => 0
  | fuel + 1, num => if den ≤ num * 10 then 0 else leadingZeros den fuel (num * 10) + 1

/-- Where the decimal point of a positive number stands: the least `k` with
`num / den < 10 ^ k`. -/
def pointOf (num den : Nat) : Int :=
  if den ≤ num then digitCount (num / den) else -(leadingZeros den 400 num : Int)

/-- The reals that round to a double, in quarters of the smallest double. -/
structure Interval where
  low : Nat
  high : Nat
  closed : Bool

/-- The interval of a double. Below a power of two the neighbour is only half as far. -/
def interval (x : Binary64) : Interval :=
  let unit := 1 <<< x.exponent
  let value := 4 * x.numerator
  let narrow := x.mantissa = 1 <<< (precision - 1) ∧ 0 < x.exponent
  ⟨value - (if narrow then unit else 2 * unit), value + 2 * unit, x.mantissa % 2 == 0⟩

/-- Whether `num / den`, in quarters of the smallest double, lies in the interval. -/
def Interval.holds (i : Interval) (num den : Nat) : Bool :=
  if i.closed then i.low * den ≤ num && num ≤ i.high * den
  else i.low * den < num && num < i.high * den

/-- A point of the grid of multiples of `10 ^ step`, as a fraction in quarters of the smallest
double. -/
def gridPoint (n : Nat) (step : Int) : Nat × Nat :=
  let quarters := scale + 2
  match step with
  | .ofNat s => ((n * Nat.pow 10 s) <<< quarters, 1)
  | .negSucc s => (n <<< quarters, Nat.pow 10 (s + 1))

/-- The nearest point with the given number of digits, if one of the two neighbours on that
grid rounds to the number. A tie between the two goes to the even one. -/
def withDigits? (x : Binary64) (point : Int) (count : Nat) : Option Nat :=
  let step := point - count
  let value := 4 * x.numerator
  let (unit, den) := gridPoint 1 step
  let below := value * den / unit
  let above := below + 1
  let fits (n : Nat) : Bool := (interval x).holds (n * unit) den
  let twice := 2 * (value * den - below * unit)
  let preferBelow := twice < unit || (twice == unit && below % 2 == 0)
  match fits below, fits above with
  | true, true => some (if preferBelow then below else above)
  | true, false => some below
  | false, true => some above
  | false, false => none

/-- The shortest digits of a positive double. -/
def shortest (x : Binary64) : Decimal :=
  let point := pointOf x.numerator (1 <<< scale)
  let found := (List.range 17).findSome? fun i =>
    (withDigits? x point (i + 1)).map fun n => (n, i + 1)
  let (n, count) := found.getD (0, 1)
  let digits := stripZeros 20 n
  ⟨digits, point + (digitCount n : Int) - count⟩

end Mandate.Binary64
