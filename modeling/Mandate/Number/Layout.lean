import Mandate.Number.Shortest

/-!
# Written forms of doubles

Two ways of writing the shortest digits of a double: positional without exponent, and the form
used in JSON texts, which always shows that the number is not an integer literal and changes to
an exponent for very large and very small numbers.
-/

namespace Mandate.Binary64

/-- Digits written positionally; the decimal point appears only before further digits. -/
def Decimal.positional (d : Decimal) : List Char :=
  let digits := Nat.toDigits 10 d.digits
  let count : Int := digits.length
  if d.point ≤ 0 then
    '0' :: '.' :: List.replicate (-d.point).toNat '0' ++ digits
  else if count ≤ d.point then
    digits ++ List.replicate (d.point - count).toNat '0'
  else
    digits.take d.point.toNat ++ '.' :: digits.drop d.point.toNat

/-- Digits written as one digit, a point if more follow, and a signed exponent. -/
def Decimal.scientific (d : Decimal) : List Char :=
  let power := d.point - 1
  let sign := if power < 0 then '-' else '+'
  let mantissa := match Nat.toDigits 10 d.digits with
    | [] => []
    | [c] => [c]
    | c :: rest => c :: '.' :: rest
  mantissa ++ 'e' :: sign :: Nat.toDigits 10 power.natAbs

/-- The decimal points that a JSON text writes positionally. -/
def hasJsonPosition (point : Int) : Bool :=
  -5 < point && point ≤ 16

/-- The digits in the form used in JSON texts: an integral number keeps a final `.0`. -/
def Decimal.json (d : Decimal) : List Char :=
  if hasJsonPosition d.point then
    let text := d.positional
    if text.contains '.' then text else text ++ ['.', '0']
  else d.scientific

/-- Put the sign in front. -/
def withSign (x : Binary64) (text : List Char) : List Char :=
  if x.negative then '-' :: text else text

/-- The text of a double in JSON. -/
def toJson (x : Binary64) : List Char :=
  withSign x <| if x.isZero then ['0', '.', '0'] else x.shortest.json

/-- The text of a double without exponent and without a needless point. -/
def toPlain (x : Binary64) : List Char :=
  withSign x <| if x.isZero then ['0'] else x.shortest.positional

end Mandate.Binary64
