import Mandate.Text.Reader
import Mandate.Time.Calendar

/-!
# Points in time

A timestamp counts seconds from the start of 1970 in UTC, with nanoseconds. A leap second is
written as second 60 and kept as the second before it with a billion nanoseconds more.

The text is that of RFC 3339 in UTC with `Z` and 0, 3, 6 or 9 digits of a fraction, whichever is
the least that loses nothing. Reading is more liberal: blanks may stand between the parts, a
blank may replace the `T`, numbers may be short, and any offset below a day is accepted.
-/

namespace Mandate.Time

open Mandate.Text

/-- A point in time. -/
structure Timestamp where
  seconds : Int
  nanos : Nat
  deriving DecidableEq, Repr, Inhabited

namespace Timestamp

/-- Whether the first point in time is not after the second. -/
def le (s t : Timestamp) : Bool :=
  s.seconds < t.seconds || (s.seconds == t.seconds && s.nanos ≤ t.nanos)

/-- Nanoseconds in a second. -/
def nanosPerSecond : Nat := 1000000000

def secondsPerDay : Int := 86400

/-- A number with leading zeros up to a width. -/
def padded (width n : Nat) : List Char :=
  let digits := Nat.toDigits 10 n
  List.replicate (width - digits.length) '0' ++ digits

/-- Four digits for the years that have them, otherwise a sign and at least four digits. -/
def yearText (year : Int) : List Char :=
  if 0 ≤ year ∧ year ≤ 9999 then padded 4 year.toNat
  else (if year < 0 then '-' else '+') :: padded 4 year.natAbs

/-- A fraction of a second in 0, 3, 6 or 9 digits. -/
def fractionText (nanos : Nat) : List Char :=
  if nanos = 0 then []
  else if nanos % 1000000 = 0 then '.' :: padded 3 (nanos / 1000000)
  else if nanos % 1000 = 0 then '.' :: padded 6 (nanos / 1000)
  else '.' :: padded 9 nanos

/-- The text in UTC. -/
def text (t : Timestamp) : String :=
  let days := t.seconds / secondsPerDay
  let ofDay := (t.seconds % secondsPerDay).toNat
  let date := Date.ofDays days
  let leap := nanosPerSecond ≤ t.nanos
  let second := ofDay % 60 + if leap then 1 else 0
  let nanos := if leap then t.nanos - nanosPerSecond else t.nanos
  String.ofList (yearText date.year ++ '-' :: padded 2 date.month ++ '-' :: padded 2 date.day ++
    'T' :: padded 2 (ofDay / 3600) ++ ':' :: padded 2 (ofDay / 60 % 60) ++
    ':' :: padded 2 second ++ fractionText nanos ++ ['Z'])

namespace Reader

/-- Skip blanks. -/
def blanks : Reader Unit := modify trimStart

/-- A number of at least one and at most `width` digits. -/
def number (width : Nat) : Reader Nat := do
  let s ← get
  let digits := (s.take width).takeWhile isDigit
  if digits.isEmpty then failure
  set (s.drop digits.length)
  return digitsValue digits

/-- A number between two bounds, after blanks. -/
def numberIn (low high width : Nat) : Reader Nat := do
  blanks
  let n ← number width
  if low ≤ n ∧ n ≤ high then return n else failure

/-- The years a timestamp may lie in. -/
def isYear (year : Int) : Bool :=
  -262143 ≤ year && year ≤ 262142

/-- A year: up to four digits, or a sign and any number of them. -/
def year : Reader Int := do
  blanks
  let s ← get
  match s with
  | '-' :: rest => do set rest; return -(← number rest.length : Nat)
  | '+' :: rest => do set rest; return (← number rest.length : Nat)
  | _ => return (← number 4 : Nat)

/-- A day. -/
def date : Reader Date := do
  let year ← year
  blanks
  Text.Reader.char '-'
  let month ← numberIn 1 12 2
  blanks
  Text.Reader.char '-'
  let day ← numberIn 1 31 2
  let date : Date := ⟨year, month, day⟩
  if date.isValid && isYear year then return date else failure

/-- The mark between the day and the time. -/
def separator : Reader Unit := do
  match ← get with
  | c :: rest => if c = 'T' ∨ c = 't' ∨ c = ' ' then set rest else failure
  | [] => failure

/-- A fraction of a second in nanoseconds. Digits after the ninth are skipped. -/
def fraction : Reader Nat := do
  match ← get with
  | '.' :: rest =>
      let digits := rest.takeWhile isDigit
      if digits.isEmpty then failure
      set (rest.dropWhile isDigit)
      let kept := digits.take 9
      return digitsValue kept * Nat.pow 10 (9 - kept.length)
  | _ => return 0

/-- The second of the day and the nanoseconds. A second 60 becomes a long second 59. -/
def time : Reader (Nat × Nat) := do
  let hour ← numberIn 0 23 2
  blanks
  Text.Reader.char ':'
  let minute ← numberIn 0 59 2
  blanks
  Text.Reader.char ':'
  let second ← numberIn 0 60 2
  let nanos ← fraction
  let start := hour * 3600 + minute * 60
  if second = 60 then return (start + 59, nanos + nanosPerSecond)
  else return (start + second, nanos)

/-- Two digits. -/
def twoDigits : Reader Nat := do
  let s ← get
  if s.length < 2 then failure
  let digits := s.take 2
  if digits.all isDigit then
    set (s.drop 2)
    return digitsValue digits
  else failure

/-- Colons and blanks. -/
def colons : Reader Unit :=
  modify fun s => s.dropWhile fun c => c == ':' || isBlank c

/-- The offset from UTC in seconds: `Z`, `UTC`, or a sign, hours and minutes. -/
def offset : Reader Int := do
  blanks
  match ← get with
  | u :: t :: c :: rest =>
      if u.toLower = 'u' ∧ t.toLower = 't' ∧ c.toLower = 'c' then
        set rest
        return 0
  | _ => pure ()
  match ← get with
  | [] => failure
  | sign :: rest =>
      set rest
      if sign = 'Z' ∨ sign = 'z' then return 0
      let negative := sign = '-' ∨ sign.toNat = 0x2212
      if ¬ negative ∧ sign ≠ '+' then failure
      let hours ← twoDigits
      colons
      let minutes ← twoDigits
      if 60 ≤ minutes ∨ 24 ≤ hours then failure
      let seconds : Int := hours * 3600 + minutes * 60
      return if negative then -seconds else seconds

/-- A point in time. -/
def timestamp : Reader Timestamp := do
  let date ← date
  separator
  let (second, nanos) ← time
  let offset ← offset
  blanks
  let seconds := date.toDays * secondsPerDay + second - offset
  if isYear (Date.ofDays (seconds / secondsPerDay)).year then return ⟨seconds, nanos⟩
  else failure

end Reader

/-- Read a whole text as a point in time. -/
def ofText? (text : String) : Option Timestamp :=
  Reader.timestamp.all? text

end Timestamp

end Mandate.Time
