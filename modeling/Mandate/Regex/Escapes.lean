import Mandate.Regex.Pattern
import Mandate.Text.Hex
import Mandate.Text.Reader

/-!
# Escapes in patterns

A backslash and what follows it stand for a character, for a set of characters or for a condition
on a position. Which one depends on the flags in force: without Unicode the classes and the word
boundaries know ASCII characters only, and what could stand for a byte that is no character is
refused.
-/

namespace Mandate.Regex

open Mandate.Text

/-- What flags change: case is ignored, anchors match at lines, the dot matches a line break,
lines may end in a carriage return, characters are those of Unicode, blanks and comments in the
pattern are skipped. -/
structure Flags where
  ignoreCase : Bool := false
  multiLine : Bool := false
  dotAll : Bool := false
  crlf : Bool := false
  unicode : Bool := true
  verbose : Bool := false
  deriving DecidableEq, Repr, Inhabited

/-- What is left of a text behind the blanks and comments at its start, of which one may be under
way. -/
def dropBlanks : (comment : Bool) → List Char → List Char
  | _, [] => []
  | true, c :: rest => dropBlanks (c != '\n') rest
  | false, c :: rest =>
      if isBlank c then dropBlanks false rest
      else if c = '#' then dropBlanks true rest
      else c :: rest

/-- The part of a pattern that is neither a group nor a class in brackets. -/
inductive Item where
  | char (c : Char)
  | set (s : CharSet)
  | assertion (a : Assertion)
  deriving DecidableEq, Repr, Inhabited

/-- The character of an item that is one. -/
def Item.char? : Item → Option Char
  | .char c => some c
  | _ => none

/-- The classes of ASCII characters that have a name. -/
def posixClass? (name : String) : Option CharSet :=
  match name with
  | "alnum" => some (.ofRanges [('0', '9'), ('A', 'Z'), ('a', 'z')])
  | "alpha" => some (.ofRanges [('A', 'Z'), ('a', 'z')])
  | "ascii" => some (.range 0 127)
  | "blank" => some (.ofRanges [('\t', '\t'), (' ', ' ')])
  | "cntrl" => some (.union (.range 0 31) (.range 127 127))
  | "digit" => some (.ofRanges [('0', '9')])
  | "graph" => some (.ofRanges [('!', '~')])
  | "lower" => some (.ofRanges [('a', 'z')])
  | "print" => some (.ofRanges [(' ', '~')])
  | "punct" => some (.ofRanges [('!', '/'), (':', '@'), ('[', Char.ofNat 96), ('\x7b', '~')])
  | "space" => some (.union (.range 9 13) (.range 32 32))
  | "upper" => some (.ofRanges [('A', 'Z')])
  | "word" => some (.ofRanges [('0', '9'), ('A', 'Z'), ('_', '_'), ('a', 'z')])
  | "xdigit" => some (.ofRanges [('0', '9'), ('A', 'F'), ('a', 'f')])
  | _ => none

/-! ### Names of properties -/

/-- The form in which the names of properties are compared: lower case, without blanks, hyphens,
underscores and a leading `is`. The name `isc` is kept, since without its start it would be that of
a category. -/
def comparedName (name : List Char) : String :=
  let plain (s : List Char) : List Char :=
    (s.filter fun c => c.toNat < 128 && c ≠ ' ' && c ≠ '_' && c ≠ '-').map Char.toLower
  if plain (name.take 2) = ['i', 's'] ∧ plain (name.drop 2) ≠ ['c'] then
    String.ofList (plain (name.drop 2))
  else String.ofList (plain name)

/-- The general category, or the group of categories, of a name. -/
def categorySet? (name : String) : Option CharSet :=
  match name with
  | "any" => some (.range 0 0x10ffff)
  | "ascii" => some (.range 0 127)
  | "assigned" => some (.complement (.property (.category .unassigned)))
  | _ => do
      let (_, group) ← Category.named.find? (·.1.contains name)
      return group.foldr (fun c rest => .union (.property (.category c)) rest) .none

/-- The script of a name. -/
def scriptSet? (name : String) : Option CharSet := do
  let script ← Script.named? name
  return .property (.script (← script.names.head?))

/-- The set of a name alone: of a property, a category or a script. -/
def namedSet? (name : String) : Option CharSet :=
  match name with
  | "alphabetic" | "alpha" => some (.property .alphabetic)
  | "lowercase" | "lower" => some (.property .lowercase)
  | "uppercase" | "upper" => some (.property .uppercase)
  | "whitespace" | "wspace" | "space" => some (.property .blank)
  | _ => categorySet? name <|> scriptSet? name

/-- The set of a property with a value. -/
def valueSet? (property value : String) : Option CharSet :=
  match property with
  | "generalcategory" | "gc" => categorySet? value
  | "script" | "sc" => scriptSet? value
  | _ => none

/-- The set that a text in braces names, which may be a property and its value. -/
def propertySet? (text : List Char) : Option CharSet :=
  match splitOnce ':' text <|> splitOnce '=' text with
  | some (property, value) => valueSet? (comparedName property) (comparedName value)
  | none => namedSet? (comparedName text)

/-! ### Reading escapes -/

/-- A code point in hexadecimal digits. -/
def hexChar? (digits : List Char) : Option Char := do
  if digits.isEmpty then none
  let values ← digits.mapM Hex.digit?
  let n := values.foldl (fun acc d => acc * 16 + d) 0
  if n < 0xD800 || (0xDFFF < n && n ≤ 0x10FFFF) then some (Char.ofNat n) else none

namespace Flags

variable (flags : Flags)

/-- A set as it is, or with the case variants of its members. -/
def fold (s : CharSet) : CharSet :=
  if !flags.ignoreCase then s
  else if flags.unicode then .folded s
  else .inter (.folded s) (.range 0 127)

/-- A set or its complement. Without Unicode a complement would hold bytes that are no
characters. -/
def negate? (negated : Bool) (s : CharSet) : Option CharSet :=
  if !negated then some s
  else if flags.unicode then some (.complement s)
  else none

/-- The set that a character stands for on its own. -/
def literal (c : Char) : CharSet :=
  if flags.unicode || c.toNat < 128 then flags.fold (.single c) else .single c

/-- Skip blanks and comments, if the flags say so. -/
def blanks : Reader Unit := do
  if flags.verbose then modify (dropBlanks false)

/-- One character with a property, and the blanks behind it. -/
def satisfying (accepts : Char → Bool) : Reader Char := do
  let c ← Reader.next
  if accepts c then
    flags.blanks
    return c
  else failure

/-- One given character, and the blanks behind it. -/
def char (c : Char) : Reader Unit := do
  let _ ← flags.satisfying (· = c)

/-- The characters between braces. -/
def inBraces : Reader (List Char) := do
  flags.char '\x7b'
  let text ← Reader.many (flags.satisfying (· ≠ '\x7d')) (← get).length
  flags.char '\x7d'
  return text

/-- The digits behind `\x`, `\u` or `\U`: in braces, or a fixed number of them. Two digits without
Unicode stand for a byte, which has to be ASCII. -/
def hexEscape (width : Nat) : Reader Char := do
  flags.blanks
  match ← Reader.peek with
  | some '\x7b' => do StateT.lift (hexChar? (← flags.inBraces))
  | _ => do
      let digits ← Reader.many (flags.satisfying fun c => (Hex.digit? c).isSome) width
      if digits.length < width then failure
      let c ← StateT.lift (hexChar? digits)
      if width = 2 ∧ !flags.unicode ∧ 128 ≤ c.toNat then failure
      return c

/-- The name behind `\p` or `\P`: one letter, or a text in braces. -/
def propertyEscape (negated : Bool) : Reader CharSet := do
  if !flags.unicode then failure
  flags.blanks
  let text ← match ← Reader.peek with
    | some '\x7b' => flags.inBraces
    | _ => pure [← flags.satisfying fun _ => true]
  let set ← StateT.lift (propertySet? text)
  StateT.lift (flags.negate? negated (flags.fold set))

/-- What may follow `\b`: the name of another condition in braces. Braces that begin with something
else are left to be read as a repetition. -/
def boundaryEscape : Reader WordCondition := do
  match ← get with
  | '\x7b' :: rest =>
      match (if flags.verbose then dropBlanks false rest else rest) with
      | [] => failure
      | c :: _ =>
          if c.isAlpha || c = '-' then
            match String.ofList (← flags.inBraces) with
            | "start" => return .start
            | "end" => return .stop
            | "start-half" => return .startHalf
            | "end-half" => return .stopHalf
            | _ => failure
          else return .boundary
  | _ => return .boundary

/-- The class of a letter such as the `d` of `\d`. -/
def letterClass? (letter : Char) : Option CharSet :=
  match letter, flags.unicode with
  | 'd', true => some (.property (.category .decimalNumber))
  | 's', true => some (.property .blank)
  | 'w', true => some (.property .word)
  | 'd', false => posixClass? "digit"
  | 's', false => posixClass? "space"
  | 'w', false => posixClass? "word"
  | _, _ => none

/-- What a single character behind a backslash stands for. A letter in upper case stands for the
complement of the class in lower case, and ASCII characters that are neither letters nor digits
for themselves. -/
def plainEscape? (c : Char) : Option Item :=
  match c with
  | 'n' => some (.char '\n')
  | 't' => some (.char '\t')
  | 'r' => some (.char '\r')
  | 'a' => some (.char (Char.ofNat 7))
  | 'f' => some (.char (Char.ofNat 12))
  | 'v' => some (.char (Char.ofNat 11))
  | 'A' => some (.assertion .textStart)
  | 'z' => some (.assertion .textEnd)
  | 'B' => some (.assertion (.word .noBoundary flags.unicode))
  | '<' => some (.assertion (.word .start flags.unicode))
  | '>' => some (.assertion (.word .stop flags.unicode))
  | _ =>
      if c.isAlpha then do
        let set ← flags.letterClass? c.toLower
        return .set (← flags.negate? c.isUpper set)
      else if c.toNat < 128 && !c.isDigit then some (.char c)
      else none

/-- An escape, behind its backslash. -/
def escape : Reader Item := do
  match ← Reader.next with
  | 'x' => return .char (← flags.hexEscape 2)
  | 'u' => return .char (← flags.hexEscape 4)
  | 'U' => return .char (← flags.hexEscape 8)
  | 'p' => return .set (← flags.propertyEscape false)
  | 'P' => return .set (← flags.propertyEscape true)
  | 'b' => return .assertion (.word (← flags.boundaryEscape) flags.unicode)
  | c => StateT.lift (flags.plainEscape? c)

end Flags

end Mandate.Regex
