import Mandate.Json.Tree
import Mandate.Number.Reading
import Mandate.Text.Characters
import Mandate.Text.Hex

/-!
# Reading JSON text

A recursive descent over the characters of a text. Every reader returns what it read and the
characters that follow. The nesting limit is 127: a container below it is read, so that a
skipped piece may nest as deeply as it likes, but it is unreadable.
-/

namespace Mandate.Json

open Mandate.Text

/-- The blanks between the tokens of a JSON text. -/
def isSpace (c : Char) : Bool :=
  c = ' ' || c = '\n' || c = '\t' || c = '\r'

def skipSpace (s : List Char) : List Char :=
  s.dropWhile isSpace

/-- The number of containers that may stand inside one another. -/
def maxDepth : Nat := 127

/-- A piece of a string text: a character, or a 16-bit unit given by its number. -/
inductive Piece where
  | char (c : Char)
  | unit (n : Nat)
  deriving DecidableEq, Repr

/-- The character that a one-letter escape stands for. -/
def escapeChar? (c : Char) : Option Char :=
  match c with
  | '"' => some '"'
  | '\\' => some '\\'
  | '/' => some '/'
  | 'b' => some (Char.ofNat 8)
  | 'f' => some (Char.ofNat 12)
  | 'n' => some '\n'
  | 'r' => some '\r'
  | 't' => some '\t'
  | _ => none

/-- The pieces of a string text up to its closing quote. The opening quote has been read. -/
def pieces? : List Char → Option (List Piece × List Char)
  | [] => none
  | '"' :: rest => some ([], rest)
  | '\\' :: 'u' :: a :: b :: c :: d :: rest => do
      let a ← Hex.digit? a
      let b ← Hex.digit? b
      let c ← Hex.digit? c
      let d ← Hex.digit? d
      let (more, rest) ← pieces? rest
      return (.unit (((a * 16 + b) * 16 + c) * 16 + d) :: more, rest)
  | '\\' :: e :: rest => do
      let c ← escapeChar? e
      let (more, rest) ← pieces? rest
      return (.char c :: more, rest)
  | c :: rest =>
      if c.toNat < 32 || c = '\\' then none
      else (pieces? rest).map fun (more, rest) => (.char c :: more, rest)

/-- Whether a unit is the first half of a surrogate pair. -/
def isHighSurrogate (n : Nat) : Bool := 0xD800 ≤ n && n ≤ 0xDBFF

/-- Whether a unit is the second half of a surrogate pair. -/
def isLowSurrogate (n : Nat) : Bool := 0xDC00 ≤ n && n ≤ 0xDFFF

/-- The characters of a list of pieces. Two units that form a surrogate pair are one character,
and half a pair is no character at all. -/
def join? : List Piece → Option (List Char)
  | [] => some []
  | .char c :: rest => (join? rest).map (c :: ·)
  | .unit high :: .unit low :: rest =>
      if isHighSurrogate high then
        if isLowSurrogate low then
          let n := 0x10000 + (high - 0xD800) * 0x400 + (low - 0xDC00)
          (join? rest).map (Char.ofNat n :: ·)
        else none
      else if isLowSurrogate high then none
      else (join? (.unit low :: rest)).map (Char.ofNat high :: ·)
  | .unit n :: rest =>
      if isHighSurrogate n || isLowSurrogate n then none
      else (join? rest).map (Char.ofNat n :: ·)

/-- The digits of an integer part: no digit may follow a leading zero. -/
def wholeDigits? (s : List Char) : Option (List Char × List Char) :=
  match spanDigits s with
  | ([], _) => none
  | (digits, rest) => if digits.head? = some '0' && digits.length ≠ 1 then none
      else some (digits, rest)

/-- An optional fraction: a point and at least one digit. -/
def fraction? : List Char → Option (Option (List Char) × List Char)
  | '.' :: rest =>
      match spanDigits rest with
      | ([], _) => none
      | (digits, rest) => some (some digits, rest)
  | s => some (none, s)

/-- An optional exponent: a mark, an optional sign and at least one digit. -/
def exponent? : List Char → Option (Option Int × List Char)
  | [] => some (none, [])
  | c :: rest =>
      if c = 'e' ∨ c = 'E' then
        let (negative, rest) := Binary64.takeSign rest
        match spanDigits rest with
        | ([], _) => none
        | (digits, rest) =>
            let n : Int := digitsValue digits
            some (some (if negative then -n else n), rest)
      else some (none, c :: rest)

/-- The number that the parts of a literal denote. A literal without fraction and exponent is an
integer if it fits the signed or the unsigned 64-bit range; minus zero is a double. -/
def number? (negative : Bool) (whole : List Char) (fraction : Option (List Char))
    (exponent : Option Int) : Option Number :=
  let n := digitsValue whole
  let float := (Binary64.scaled? negative whole (fraction.getD []) (exponent.getD 0)).map .float
  if fraction.isSome || exponent.isSome then float
  else if negative then if 0 < n && lowestInt ≤ -n then some (.int (-n)) else float
  else if n ≤ wordMax then some (.int n)
  else float

/-- A number literal. -/
def readNumber? (negative : Bool) (s : List Char) : Option (Tree × List Char) := do
  let (whole, rest) ← wholeDigits? s
  let (fraction, rest) ← fraction? rest
  let (exponent, rest) ← exponent? rest
  let tree := match number? negative whole fraction exponent with
    | some n => .number n
    | none => .unreadable
  return (tree, rest)

/-- A container, unless the nesting limit was used up. -/
def atDepth (depth : Nat) (t : Tree) : Tree :=
  if depth = 0 then .unreadable else t

/-- The object with the given members. A key without a meaning makes it unreadable. -/
def objectTree (members : List (Option String × Tree)) : Tree :=
  match members.mapM fun (k, t) => k.map (·, t) with
  | some members => .object members
  | none => .unreadable

/-- A string, given its pieces. -/
def stringOf? (pieces : List Piece) : Option String :=
  (join? pieces).map String.ofList

mutual

/-- Read one value. `depth` is the number of further containers allowed; the fuel is spent on
every step and the length of the text is enough of it. -/
def readTree? : (fuel depth : Nat) → List Char → Option (Tree × List Char)
  | 0, _, _ => none
  | fuel + 1, depth, s =>
      match skipSpace s with
      | 'n' :: 'u' :: 'l' :: 'l' :: rest => some (.null, rest)
      | 't' :: 'r' :: 'u' :: 'e' :: rest => some (.bool true, rest)
      | 'f' :: 'a' :: 'l' :: 's' :: 'e' :: rest => some (.bool false, rest)
      | '"' :: rest => do
          let (pieces, rest) ← pieces? rest
          let tree := match stringOf? pieces with
            | some text => .string text
            | none => .unreadable
          return (tree, rest)
      | '[' :: rest =>
          match skipSpace rest with
          | ']' :: rest => some (atDepth depth (.array []), rest)
          | rest => do
              let (items, rest) ← readItems? fuel (depth - 1) rest
              return (atDepth depth (.array items), rest)
      | '\x7b' :: rest =>
          match skipSpace rest with
          | '\x7d' :: rest => some (atDepth depth (.object []), rest)
          | rest => do
              let (members, rest) ← readMembers? fuel (depth - 1) rest
              return (atDepth depth (objectTree members), rest)
      | '-' :: rest => readNumber? true rest
      | rest => readNumber? false rest

/-- Read items up to the closing bracket. -/
def readItems? : (fuel depth : Nat) → List Char → Option (List Tree × List Char)
  | 0, _, _ => none
  | fuel + 1, depth, s => do
      let (item, rest) ← readTree? fuel depth s
      match skipSpace rest with
      | ',' :: rest => do
          let (items, rest) ← readItems? fuel depth rest
          return (item :: items, rest)
      | ']' :: rest => return ([item], rest)
      | _ => none

/-- Read members up to the closing brace. -/
def readMembers? : (fuel depth : Nat) → List Char →
    Option (List (Option String × Tree) × List Char)
  | 0, _, _ => none
  | fuel + 1, depth, s =>
      match skipSpace s with
      | '"' :: rest => do
          let (pieces, rest) ← pieces? rest
          let key := stringOf? pieces
          match skipSpace rest with
          | ':' :: rest => do
              let (value, rest) ← readTree? fuel depth rest
              match skipSpace rest with
              | ',' :: rest => do
                  let (members, rest) ← readMembers? fuel depth rest
                  return ((key, value) :: members, rest)
              | '\x7d' :: rest => return ([(key, value)], rest)
              | _ => none
          | _ => none
      | _ => none

end

/-- Read a whole text: one value with nothing but blanks around it. -/
def Tree.ofText? (text : String) : Option Tree := do
  let chars := text.toList
  let (tree, rest) ← readTree? (chars.length + 1) maxDepth chars
  if (skipSpace rest).isEmpty then some tree else none

/-- The document that a whole text denotes. -/
def Value.ofText? (text : String) : Option Value :=
  (Tree.ofText? text).bind Tree.value?

end Mandate.Json
