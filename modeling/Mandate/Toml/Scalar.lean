import Mandate.Number.Reading
import Mandate.Text.Hex
import Mandate.Text.Reader
import Mandate.Time.Calendar
import Mandate.Toml.Item

/-!
# TOML scalars

Keys, strings, numbers and moments as they are written. Numbers may be grouped by single
underscores between digits, an integer has to fit 64 bits, and a float must not exceed the
largest double.
-/

namespace Mandate.Toml

open Mandate.Text

namespace Scalar

/-- Blanks within a line. -/
def isSpace (c : Char) : Bool := c = ' ' || c = '\t'

def space : Reader Unit := do
  let _ ← Reader.takeWhile isSpace

/-- Characters that may stand in comments and strings: everything but control characters, of
which the tabulator alone is allowed. -/
def isPlain (c : Char) : Bool := c = '\t' || (' ' ≤ c && c.toNat ≠ 127)

/-- The end of a line. -/
def newline : Reader Unit :=
  Reader.char '\n' <|> Reader.word ['\r', '\n']

/-- A comment up to the end of its line. -/
def comment : Reader Unit := do
  Reader.char '#'
  let _ ← Reader.takeWhile isPlain

/-- The character with a code in a fixed number of hexadecimal digits. -/
def codePoint (width : Nat) : Reader Char := do
  let s ← get
  if s.length < width then failure
  let values ← StateT.lift ((s.take width).mapM Hex.digit?)
  let n := values.foldl (fun acc d => acc * 16 + d) 0
  if 0xD800 ≤ n ∧ n ≤ 0xDFFF ∨ 0x10FFFF < n then failure
  set (s.drop width)
  return Char.ofNat n

/-- The character of an escape sequence, after the backslash. -/
def escape : Reader Char := do
  let c ← Reader.oneOf ['b', 't', 'n', 'f', 'r', '"', '\\', 'u', 'U']
  if c = 'b' then return Char.ofNat 8
  else if c = 't' then return '\t'
  else if c = 'n' then return '\n'
  else if c = 'f' then return Char.ofNat 12
  else if c = 'r' then return '\r'
  else if c = 'u' then codePoint 4
  else if c = 'U' then codePoint 8
  else return c

/-- A plain character other than the given ones. -/
def plainBut (cs : List Char) : Reader Char := do
  match ← get with
  | c :: rest =>
      if isPlain c && !cs.contains c then
        set rest
        return c
      else failure
  | [] => failure

/-- The characters of a string on one line, in which a backslash escapes. -/
def basicChars : Reader (List Char) := do
  Reader.many (plainBut ['"', '\\'] <|> (Reader.char '\\' *> escape)) (← get).length

/-- A string on one line between quotes. -/
def basicString : Reader String := do
  Reader.char '"'
  let s ← basicChars
  Reader.char '"'
  return String.ofList s

/-- A string on one line between apostrophes, in which nothing escapes. -/
def literalString : Reader String := do
  Reader.char '\''
  let s ← Reader.takeWhile fun c => isPlain c && c ≠ '\''
  Reader.char '\''
  return String.ofList s

/-- A newline inside a string. -/
def lineBreak : Reader (List Char) := newline *> pure ['\n']

/-- A backslash at the end of a line swallows the break and the blanks that follow. -/
def continuation : Reader (List Char) := do
  Reader.char '\\'
  space
  newline
  let _ ← Reader.many (newline <|> do let _ ← Reader.takeSome isSpace) (← get).length
  return []

/-- One or two delimiters that do not end a string. -/
def innerDelimiters (delimiter : Char) : Reader (List Char) := do
  let found := (← get).takeWhile (· = delimiter)
  if found.isEmpty ∨ 3 ≤ found.length then failure
  set ((← get).drop found.length)
  return found

/-- Three delimiters that end a string. One or two more just before them belong to it. -/
def closing (delimiter : Char) : Reader (List Char) := do
  let found := ((← get).take 5).takeWhile (· = delimiter)
  if found.length < 3 then failure
  set ((← get).drop found.length)
  return found.drop 3

/-- A string over several lines between three delimiters on each side. A newline right at its
start is dropped. -/
def multiline (delimiter : Char) (piece : Reader (List Char)) : Reader String := do
  Reader.word [delimiter, delimiter, delimiter]
  let _ ← Reader.optional newline
  let pieces ← Reader.many (piece <|> lineBreak <|> innerDelimiters delimiter) (← get).length
  let rest ← closing delimiter
  return String.ofList (pieces.flatten ++ rest)

/-- Any string. -/
def string : Reader String :=
  multiline '"' (List.singleton <$> plainBut ['"', '\\'] <|> continuation <|>
      (Reader.char '\\' *> List.singleton <$> escape)) <|>
    multiline '\'' (List.singleton <$> plainBut ['\'']) <|>
    basicString <|> literalString

/-- Characters of a key that needs no quotes. -/
def isBare (c : Char) : Bool := c.isAlphanum || c = '-' || c = '_'

/-- One part of a key. -/
def keyPart : Reader String := do
  match ← Reader.peek with
  | some '"' => basicString
  | some '\'' => literalString
  | _ => String.ofList <$> Reader.takeSome isBare

/-- Containers and dotted keys are at most this deep. -/
def maxDepth : Nat := 79

/-- A key of one or more parts with dots between them. -/
def key : Reader (List String) := do
  space
  let first ← keyPart
  space
  let rest ← Reader.many (do Reader.char '.'; space; let part ← keyPart; space; return part)
    (← get).length
  if maxDepth ≤ rest.length then failure
  return first :: rest

/-- Digits of some kind, grouped by single underscores. -/
def grouped (isDigit : Char → Bool) : Reader (List Char) := do
  let first ← Reader.takeSome isDigit
  let groups ← Reader.many (Reader.char '_' *> Reader.takeSome isDigit) (← get).length
  return first ++ groups.flatten

/-- The sign of a number, if it has one. -/
def sign : Reader (List Char) :=
  (List.singleton <$> Reader.oneOf ['+', '-']) <|> pure []

/-- A decimal integer without leading zeros, as it is written. -/
def decimalDigits : Reader (List Char) := do
  match ← Reader.peek with
  | some '0' => do Reader.char '0'; return ['0']
  | _ => grouped isDigit

/-- An integer after a mark for its base. -/
def based (mark : Char) (base : Nat) : Reader Int := do
  Reader.word ['0', mark]
  let digits ← grouped fun c => (Hex.digit? c).any (· < base)
  let n := (digits.filterMap Hex.digit?).foldl (fun acc d => acc * base + d) 0
  return (n : Int)

/-- A decimal integer with an optional sign. -/
def decimal : Reader Int := do
  let sign ← sign
  let n := digitsValue (← decimalDigits)
  return if sign = ['-'] then -(n : Int) else n

/-- An integer of 64 bits. -/
def integer : Reader Int := do
  let n ← based 'x' 16 <|> based 'o' 8 <|> based 'b' 2 <|> decimal
  if lowestInt ≤ n ∧ n ≤ highestInt then return n else failure

/-- The exponent of a float. -/
def exponent : Reader (List Char) := do
  let _ ← Reader.oneOf ['e', 'E']
  let sign ← sign
  return 'e' :: sign ++ (← grouped isDigit)

/-- The fraction of a float. -/
def fraction : Reader (List Char) := do
  Reader.char '.'
  return '.' :: (← grouped isDigit)

/-- The names of infinity and of what is no number. -/
def specialFloat : Reader (List Char) :=
  (Reader.word ['i', 'n', 'f'] *> pure ['i', 'n', 'f']) <|>
    (Reader.word ['n', 'a', 'n'] *> pure ['n', 'a', 'n'])

/-- A float: an integer with a fraction, an exponent or both. -/
def float : Reader String := do
  let sign ← sign
  let number : Reader (List Char) := do
    let whole ← decimalDigits
    let tail ← exponent <|> do return (← fraction) ++ ((← Reader.optional exponent).getD [])
    let text := whole ++ tail
    if sign ≠ ['-'] ∧ (Binary64.ofText? text).isNone then failure
    return text
  return String.ofList (sign ++ (← number <|> specialFloat))

/-- A number of exactly so many digits between two bounds. -/
def fixed (width low high : Nat) : Reader Nat := do
  let s ← get
  let digits := (s.take width).takeWhile isDigit
  if digits.length ≠ width then failure
  let n := digitsValue digits
  if n < low ∨ high < n then failure
  set (s.drop width)
  return n

/-- A day that exists. -/
def date : Reader Unit := do
  let year ← fixed 4 0 9999
  Reader.char '-'
  let month ← fixed 2 1 12
  Reader.char '-'
  let day ← fixed 2 1 31
  if Time.daysInMonth year month < day then failure

/-- A time of the day. -/
def time : Reader Unit := do
  let _ ← fixed 2 0 23
  Reader.char ':'
  let _ ← fixed 2 0 59
  Reader.char ':'
  let _ ← fixed 2 0 60
  let _ ← Reader.optional (Reader.char '.' *> Reader.takeSome isDigit)

/-- An offset from UTC. -/
def offset : Reader Unit :=
  (do let _ ← Reader.oneOf ['Z', 'z']) <|> do
    let _ ← Reader.oneOf ['+', '-']
    let _ ← fixed 2 0 23
    Reader.char ':'
    let _ ← fixed 2 0 59

/-- A day, a time of the day, or both with or without an offset. -/
def moment : Reader String := do
  let before ← get
  let dated : Reader Unit := do
    date
    let _ ← Reader.optional do
      let _ ← Reader.oneOf ['T', 't', ' ']
      time
      let _ ← Reader.optional offset
  dated <|> time
  return String.ofList (before.take (before.length - (← get).length))

/-- A truth value. -/
def boolean : Reader Bool :=
  (Reader.word ['t', 'r', 'u', 'e'] *> pure true) <|>
    (Reader.word ['f', 'a', 'l', 's', 'e'] *> pure false)

/-- Any scalar. What could be a moment is tried before numbers, and floats before integers. -/
def item : Reader Item :=
  (.text <$> string) <|> (.boolean <$> boolean) <|> (.moment <$> moment) <|> (.float <$> float) <|>
    (.integer <$> integer)

end Scalar

end Mandate.Toml
