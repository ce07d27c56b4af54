/-!
# Hexadecimal text

Bytes as pairs of lower-case hexadecimal digits. Reading accepts upper case as well.
-/

namespace Mandate.Text.Hex

/-- The two digits of a byte. -/
def encodeByte (b : UInt8) : List Char :=
  [Nat.digitChar (b.toNat / 16), Nat.digitChar (b.toNat % 16)]

/-- The digits of a list of bytes. -/
def encode (bytes : List UInt8) : String :=
  String.ofList (bytes.flatMap encodeByte)

/-- The value of a digit. -/
def digit? (c : Char) : Option Nat :=
  if '0' ≤ c ∧ c ≤ '9' then some (c.toNat - '0'.toNat)
  else if 'a' ≤ c ∧ c ≤ 'f' then some (c.toNat - 'a'.toNat + 10)
  else if 'A' ≤ c ∧ c ≤ 'F' then some (c.toNat - 'A'.toNat + 10)
  else none

/-- The bytes of an even number of digits. -/
def decodeChars? : List Char → Option (List UInt8)
  | [] => some []
  | a :: b :: rest => do
      let high ← digit? a
      let low ← digit? b
      let bytes ← decodeChars? rest
      return UInt8.ofNat (high * 16 + low) :: bytes
  | _ => none

/-- The bytes that a text of hexadecimal digits denotes. -/
def decode? (text : String) : Option (List UInt8) :=
  decodeChars? text.toList

end Mandate.Text.Hex
