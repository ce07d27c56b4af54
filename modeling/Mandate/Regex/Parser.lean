import Mandate.Regex.Brackets

/-!
# Reading patterns

The text form of patterns: alternation, concatenation, repetition, groups with flags, classes in
brackets with set operations, and escapes. There is no look-around and no back reference. A text
outside the grammar denotes no pattern. Like a class, a pattern is read with the groups that are
open on a stack.

Left out are the properties of characters other than the general category, the script,
`Alphabetic`, `Lowercase`, `Uppercase` and `White_Space`, and the form `\p{name!=value}`: a pattern
that uses one of them is refused. Left out as well are the two limits of the engine whose syntax
this is, a nesting of 250 levels and ten mebibytes for what a pattern compiles to: a pattern beyond
them is read here like any other. The properties are those of Unicode 15.
-/

namespace Mandate.Regex

open Mandate.Text

/-! ### Repetition -/

/-- The largest repetition count. -/
def maxCount : Nat := 0xffffffff

namespace Flags

variable (flags : Flags)

/-- A number with blanks around it, which need no flag. -/
def count : Reader Nat := do
  modify trimStart
  let digits ← Reader.many (flags.satisfying isDigit) (← get).length
  modify trimStart
  if digits.isEmpty || maxCount < digitsValue digits then failure
  return digitsValue digits

/-- The bounds of a counted repetition, in braces. -/
def bounds : Reader (Nat × Option Nat) := do
  flags.char '\x7b'
  let min ← flags.count
  let max ← match ← Reader.optional (flags.char ',') with
    | none => pure (some min)
    | some () =>
        match ← Reader.peek with
        | some '\x7d' => pure none
        | _ => some <$> flags.count
  flags.char '\x7d'
  if max.any (· < min) then failure
  return (min, max)

/-- A repetition operator. A question mark behind it only changes which match is preferred. -/
def repetition : Reader (Nat × Option Nat) := do
  let range ← match ← Reader.peek with
    | some '\x7b' => flags.bounds
    | _ =>
        match ← Reader.next with
        | '*' => pure (0, none)
        | '+' => pure (1, none)
        | '?' => pure (0, some 1)
        | _ => failure
  let _ ← Reader.optional (Reader.char '?')
  return range

/-! ### Flags and groups -/

/-- Set or clear the flag of a letter. Which of several matches is preferred, the flag `U`, changes
nothing here. -/
def change? (value : Bool) (letter : Char) : Option Flags :=
  match letter with
  | 'i' => some { flags with ignoreCase := value }
  | 'm' => some { flags with multiLine := value }
  | 's' => some { flags with dotAll := value }
  | 'R' => some { flags with crlf := value }
  | 'u' => some { flags with unicode := value }
  | 'x' => some { flags with verbose := value }
  | 'U' => some flags
  | _ => none

/-- The flags after a list of letters, of which those behind a hyphen are cleared. No letter stands
twice, and a hyphen is followed by a letter. -/
def changes? (letters : List Char) : Option Flags :=
  if ¬ letters.Nodup ∨ letters.getLast? = some '-' then none
  else
    match splitOnce '-' letters with
    | some (raised, cleared) => do
        cleared.foldlM (fun flags => change? flags false)
          (← raised.foldlM (fun flags => change? flags true) flags)
    | none => letters.foldlM (fun flags => change? flags true) flags

end Flags

/-- Whether a text may name a group. -/
def isGroupName : List Char → Bool
  | [] => false
  | c :: rest =>
      (c = '_' || isAlphabetic c.toNat) &&
        rest.all fun c =>
          c = '_' || c = '.' || c = '[' || c = ']' || isAlphabetic c.toNat ||
            Category.numbers.any (·.holds c.toNat)

/-- What follows an opening parenthesis: the flags and the name of a group, or flags for the rest
of the group around it. -/
inductive Opening where
  | group (flags : Flags) (name : Option (List Char))
  | setting (flags : Flags)

/-- The name of a group, behind its opening angle bracket. -/
def groupName : Reader (List Char) := do
  let name ← Reader.takeWhile (· ≠ '>')
  Reader.char '>'
  if isGroupName name then return name else failure

/-- The start of a group or a setting of flags, behind the opening parenthesis. -/
def Flags.opening (flags : Flags) : Reader Opening := do
  flags.blanks
  match ← get with
  | '?' :: 'P' :: '<' :: rest =>
      set rest
      return .group flags (← groupName)
  | '?' :: '<' :: rest =>
      set rest
      return .group flags (← groupName)
  | '?' :: rest =>
      set rest
      let letters ← Reader.takeWhile fun c => c ≠ ':' && c ≠ ')'
      let changed ← StateT.lift (flags.changes? letters)
      match ← Reader.next with
      | ':' => return .group changed none
      | _ => if letters.isEmpty then failure else return .setting changed
  | _ => return .group flags none

/-! ### Alternatives -/

/-- A group that is being read: the flags in force, the alternatives before the current one, and
the items of the current one, the last first. A setting of flags is an item without a pattern. -/
structure OpenGroup where
  flags : Flags
  alternatives : List Pattern := []
  items : List (Option Pattern) := []

namespace OpenGroup

variable (group : OpenGroup)

/-- Add an item. -/
def add (p : Pattern) : OpenGroup := { group with items := some p :: group.items }

/-- Change the flags for the rest of the group. -/
def setting (flags : Flags) : OpenGroup := { group with flags, items := none :: group.items }

/-- Repeat the last item, which has to be there and not to be a setting. -/
def repeat? (min : Nat) (max : Option Nat) : Option OpenGroup :=
  match group.items with
  | some p :: items => some { group with items := some (.rep p min max) :: items }
  | _ => none

/-- The current alternative. -/
def current : Pattern := .sequence (group.items.reverse.filterMap id)

/-- Begin another alternative. -/
def branch : OpenGroup :=
  { group with alternatives := group.current :: group.alternatives, items := [] }

/-- The pattern of a group that is complete. -/
def close : Pattern := group.alternatives.foldl (fun p q => .alt q p) group.current

end OpenGroup

/-- What the dot matches. Without Unicode it would match bytes that are no characters. -/
def Flags.dot? (flags : Flags) : Option CharSet :=
  if !flags.unicode then none
  else if flags.dotAll then some (.complement .none)
  else if flags.crlf then some (.complement (.union (.single '\r') (.single '\n')))
  else some (.complement (.single '\n'))

/-- One item that is not a group. -/
def Flags.atom (flags : Flags) : Reader Pattern := do
  match ← Reader.next with
  | '.' => return .chars (← StateT.lift flags.dot?)
  | '^' => return .assertion (if flags.multiLine then .lineStart flags.crlf else .textStart)
  | '$' => return .assertion (if flags.multiLine then .lineEnd flags.crlf else .textEnd)
  | '[' => return .chars (← flags.brackets)
  | '\\' =>
      match ← flags.escape with
      | .char c => return .chars (flags.literal c)
      | .set s => return .chars s
      | .assertion a => return .assertion a
  | c => return .chars (flags.literal c)

/-- The rest of a pattern, inside the groups of a stack. No two groups have the same name. -/
def patternRest : (fuel : Nat) → (names : List (List Char)) → OpenGroup →
    (stack : List OpenGroup) → Reader Pattern
  | 0, _, _, _ => failure
  | fuel + 1, names, group, stack => do
      group.flags.blanks
      match ← get with
      | [] => if stack.isEmpty then return group.close else failure
      | '(' :: rest =>
          set rest
          match ← group.flags.opening with
          | .setting flags => patternRest fuel names (group.setting flags) stack
          | .group flags none => patternRest fuel names { flags } (group :: stack)
          | .group flags (some name) =>
              if names.contains name then failure
              patternRest fuel (name :: names) { flags } (group :: stack)
      | ')' :: rest =>
          set rest
          match stack with
          | [] => failure
          | outer :: stack => patternRest fuel names (outer.add group.close) stack
      | '|' :: rest =>
          set rest
          patternRest fuel names group.branch stack
      | c :: _ =>
          if c = '*' ∨ c = '+' ∨ c = '?' ∨ c = '\x7b' then
            let (min, max) ← group.flags.repetition
            let repeated ← StateT.lift (group.repeat? min max)
            patternRest fuel names repeated stack
          else
            let item ← group.flags.atom
            patternRest fuel names (group.add item) stack

/-- The pattern that a whole text denotes. -/
def Pattern.ofText? (text : String) : Option Pattern :=
  Reader.all? (patternRest (text.toList.length + 1) [] { flags := {} } []) text

example : (Pattern.ofText? "[\\w-.]").isNone = true := by decide +kernel

example : (Pattern.ofText? "[\\w.-]").any (·.isMatch "-") = true := by decide +kernel

end Mandate.Regex
