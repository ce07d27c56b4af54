import Mandate.Number.Binary64
import Mandate.Text.Characters

/-!
# Reading doubles from decimal text

Two readings of a decimal. The nearest reading rounds the exact decimal value once. The scaled
reading, used for JSON texts, keeps the leading digits that fit a 64-bit word and scales them by
powers of ten, rounding at every step; for up to fifteen digits and moderate exponents the two
agree.
-/

namespace Mandate.Binary64

open Mandate.Text

/-- The largest power of ten that is a finite double. -/
def maxPower : Nat := 308

/-- Divide by `10 ^ 308` the given number of times, rounding each time. -/
def divideOut? : (times : Nat) → Binary64 → Option Binary64
  | 0, x => some x
  | times + 1, x =>
      if x.isZero then some x
      else (x.mulRatio? (1 <<< scale) (powerOfTen maxPower)).bind (divideOut? times)

/-- Multiply by `10 ^ exponent` in rounded steps: an exponent below the range of single powers
of ten is first brought into it. A result beyond the largest double is none. -/
def scaleByTen? (x : Binary64) (exponent : Int) : Option Binary64 :=
  let excess := (-exponent).toNat - maxPower
  let times := (excess + maxPower - 1) / maxPower
  let remaining := exponent + (maxPower * times : Nat)
  (divideOut? times x).bind fun y =>
    if y.isZero then some y
    else if (maxPower : Int) < remaining then none
    else if 0 ≤ remaining then y.mulRatio? (powerOfTen remaining.toNat) (1 <<< scale)
    else y.mulRatio? (1 <<< scale) (powerOfTen (-remaining).toNat)

/-- The digits that a scaled reading keeps: as many as fit a 64-bit word. Also gives the number
of digits left over. -/
def leadingDigits (start : Nat) : List Char → Nat × Nat
  | [] => (start, 0)
  | c :: rest =>
      let next := start * 10 + (c.toNat - '0'.toNat)
      if wordMax < next then (start, rest.length + 1) else leadingDigits next rest

/-- The scaled reading of a decimal given by its integer digits, fraction digits and exponent. -/
def scaled? (negative : Bool) (whole fraction : List Char) (exponent : Int) : Option Binary64 :=
  let (head, dropped) := leadingDigits 0 whole
  let (significand, unused) := leadingDigits head fraction
  let kept : Int := fraction.length - unused
  let magnitude := scaleByTen? (ofInt significand) (exponent + dropped - kept)
  magnitude.map fun x => { x with negative }

/-- The double nearest to `digits · 10 ^ exponent`. -/
def ofDecimal? (negative : Bool) (digits : Nat) (exponent : Int) : Option Binary64 :=
  let size := exponent + (Nat.toDigits 10 digits).length
  if digits = 0 || size < -400 then some ⟨negative, 0, 0⟩
  else if 400 < size then none
  else
    match exponent with
    | .ofNat e => ofRatio? negative (digits * Nat.pow 10 e) 1
    | .negSucc e => ofRatio? negative digits (Nat.pow 10 (e + 1))

/-- An optional sign, and what follows. -/
def takeSign : List Char → Bool × List Char
  | '-' :: rest => (true, rest)
  | '+' :: rest => (false, rest)
  | text => (false, text)

/-- The exponent part of a decimal text: nothing, or a mark, an optional sign and digits. -/
def exponentPart? : List Char → Option Int
  | [] => some 0
  | mark :: rest =>
      if mark = 'e' ∨ mark = 'E' then
        let (negative, digits) := takeSign rest
        (nat? digits).map fun n => if negative then -(n : Int) else n
      else none

/-- Read a whole text as a finite decimal number: digits with an optional point somewhere among
or around them, an optional sign and an optional exponent. Rounds to the nearest double. -/
def ofText? (text : List Char) : Option Binary64 :=
  let (negative, body) := takeSign text
  let (whole, rest) := spanDigits body
  let (fraction, rest) := match rest with
    | '.' :: rest => spanDigits rest
    | _ => ([], rest)
  if whole.isEmpty && fraction.isEmpty then none
  else do
    let exponent ← exponentPart? rest
    ofDecimal? negative (digitsValue (whole ++ fraction)) (exponent - fraction.length)

end Mandate.Binary64
