import Mandate.Text.Hex

/-!
# Universally unique identifiers

An identifier is 128 bits. It is written as 32 lower-case hexadecimal digits in five groups.
Reading also accepts upper case, the digits without hyphens, and the hyphenated form in braces
or after `urn:uuid:`.
-/

namespace Mandate

/-- A 128-bit identifier. -/
structure Uuid where
  bits : BitVec 128
  deriving DecidableEq, Repr, Inhabited

namespace Uuid

/-- The identifier whose bits are all zero. -/
def nil : Uuid := ⟨0⟩

/-- The hexadecimal digits of the lowest `4 · count` bits, the highest first. -/
def digits (n : Nat) : (count : Nat) → List Char
  | 0 => []
  | count + 1 => Nat.digitChar ((n >>> (4 * count)) % 16) :: digits n count

/-- The text in five groups of 8, 4, 4, 4 and 12 digits. -/
def text (u : Uuid) : String :=
  let n := u.bits.toNat
  String.ofList (digits (n >>> 96) 8 ++ '-' :: digits (n >>> 80) 4 ++ '-' :: digits (n >>> 64) 4 ++
    '-' :: digits (n >>> 48) 4 ++ '-' :: digits n 12)

instance : ToString Uuid := ⟨text⟩

/-- The identifier with the given 32 digits. -/
def ofDigits? (s : List Char) : Option Uuid := do
  if s.length ≠ 32 then none
  let values ← s.mapM Text.Hex.digit?
  return ⟨BitVec.ofNat 128 (values.foldl (fun acc d => acc * 16 + d) 0)⟩

/-- Take the hyphens out of the five groups. -/
def ungroup? (s : List Char) : Option (List Char) :=
  if s.length = 36 && [8, 13, 18, 23].all (fun i => s[i]? = some '-') then
    some (s.take 8 ++ (s.drop 9).take 4 ++ (s.drop 14).take 4 ++ (s.drop 19).take 4 ++ s.drop 24)
  else none

/-- The text inside braces or after the name of the URN scheme, if either is there. -/
def unwrapped (s : List Char) : List Char :=
  match s with
  | '\x7b' :: rest => if rest.length = 37 && rest.getLast? = some '\x7d' then rest.dropLast else s
  | 'u' :: 'r' :: 'n' :: ':' :: 'u' :: 'u' :: 'i' :: 'd' :: ':' :: rest => rest
  | _ => s

/-- Read an identifier in any of its written forms. -/
def ofText? (text : String) : Option Uuid :=
  let s := text.toList
  if s.length = 32 then ofDigits? s
  else (ungroup? (unwrapped s)).bind ofDigits?

/-- The number of the layout version. -/
def version (u : Uuid) : Nat :=
  (u.bits.toNat >>> 76) % 16

/-- A random identifier of version 4, given enough random bits. -/
def ofRandom (random : Nat) : Uuid :=
  let kept := BitVec.ofNat 128 random &&& 0xffffffffffff0fff3fffffffffffffff#128
  ⟨kept ||| 0x00000000000040008000000000000000#128⟩

end Uuid

end Mandate
