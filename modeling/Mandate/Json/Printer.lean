import Mandate.Json.Value
import Mandate.Number.Layout
import Mandate.Text.Characters

/-!
# JSON text

Three texts of a document: the compact text, which writes members in the order in which they
are listed; the canonical text, which is the compact text of the sorted document; and an
indented text for people.
-/

namespace Mandate.Json

/-- The lower-case hexadecimal digit of a number below sixteen. -/
def hexDigit (n : Nat) : Char :=
  (Nat.digitChar n)

/-- A character inside a string text. Control characters, the quote and the backslash are
escaped; everything else stands for itself. -/
def escaped (c : Char) : List Char :=
  if c = '"' then ['\\', '"']
  else if c = '\\' then ['\\', '\\']
  else if c = '\n' then ['\\', 'n']
  else if c = '\r' then ['\\', 'r']
  else if c = '\t' then ['\\', 't']
  else if c.toNat = 8 then ['\\', 'b']
  else if c.toNat = 12 then ['\\', 'f']
  else if c.toNat < 32 then
    ['\\', 'u', '0', '0', hexDigit (c.toNat / 16), hexDigit (c.toNat % 16)]
  else [c]

/-- A string between quotes. -/
def quoted (s : String) : List Char :=
  '"' :: s.toList.flatMap escaped ++ ['"']

namespace Number

/-- The text of a number. -/
def chars : Number → List Char
  | .int n => if n < 0 then '-' :: Nat.toDigits 10 n.natAbs else Nat.toDigits 10 n.toNat
  | .float x => x.toJson

end Number

namespace Value

mutual

/-- The compact text, as characters. -/
def chars : Value → List Char
  | .null => ['n', 'u', 'l', 'l']
  | .bool true => ['t', 'r', 'u', 'e']
  | .bool false => ['f', 'a', 'l', 's', 'e']
  | .number n => n.chars
  | .string s => quoted s
  | .array items => '[' :: itemChars items ++ [']']
  | .object members => '\x7b' :: memberChars members ++ ['\x7d']

/-- Items separated by commas. -/
def itemChars : List Value → List Char
  | [] => []
  | [v] => chars v
  | v :: rest => chars v ++ ',' :: itemChars rest

/-- Members separated by commas. -/
def memberChars : Members → List Char
  | [] => []
  | [(k, v)] => quoted k ++ ':' :: chars v
  | (k, v) :: rest => quoted k ++ ':' :: chars v ++ ',' :: memberChars rest

end

/-- The compact text: no blanks, members in the listed order. -/
def text (v : Value) : String :=
  String.ofList v.chars

/-- The canonical text: compact, with the members of every object in key order. -/
def canonicalText (v : Value) : String :=
  v.sorted.text

/-- A line break followed by two blanks for every level. -/
def lineBreak (level : Nat) : List Char :=
  '\n' :: List.replicate (2 * level) ' '

mutual

/-- The indented text, as characters. Empty containers stay on one line. -/
def indentedChars (level : Nat) : Value → List Char
  | .array [] => ['[', ']']
  | .array (v :: rest) =>
      '[' :: lineBreak (level + 1) ++ indentedChars (level + 1) v ++
        indentedItems (level + 1) rest ++ lineBreak level ++ [']']
  | .object [] => ['\x7b', '\x7d']
  | .object ((k, v) :: rest) =>
      '\x7b' :: lineBreak (level + 1) ++ quoted k ++ ':' :: ' ' :: indentedChars (level + 1) v ++
        indentedMembers (level + 1) rest ++ lineBreak level ++ ['\x7d']
  | scalar => scalar.chars

def indentedItems (level : Nat) : List Value → List Char
  | [] => []
  | v :: rest => ',' :: lineBreak level ++ indentedChars level v ++ indentedItems level rest

def indentedMembers (level : Nat) : Members → List Char
  | [] => []
  | (k, v) :: rest =>
      ',' :: lineBreak level ++ quoted k ++ ':' :: ' ' :: indentedChars level v ++
        indentedMembers level rest

end

/-- The text with one member or item a line, each level indented by two blanks. -/
def indented (v : Value) : String :=
  String.ofList (v.indentedChars 0)

end Value

end Mandate.Json
