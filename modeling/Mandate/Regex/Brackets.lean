import Mandate.Regex.Escapes

/-!
# Classes in brackets

A class lists characters, ranges, escapes and further classes between brackets. Its parts can be
joined by set operators, which associate to the left. Reading keeps the classes that are open on a
stack, so every step takes at least one character.
-/

namespace Mandate.Regex

open Mandate.Text

/-- The set operators between the parts of a class. -/
inductive SetOp where
  | inter
  | diff
  | exclusive

/-- The operator that is written with a character twice. -/
def SetOp.ofChar? : Char → Option SetOp
  | '&' => some .inter
  | '-' => some .diff
  | '~' => some .exclusive
  | _ => none

/-- The set that an operator makes of two. -/
def SetOp.apply : SetOp → CharSet → CharSet → CharSet
  | .inter => .inter
  | .diff => .diff
  | .exclusive => .exclusive

/-- A class that is being read: the last operator with what stands before it, and the union of
what was read since. -/
structure OpenClass where
  negated : Bool
  pending : Option (SetOp × CharSet)
  members : CharSet

namespace OpenClass

/-- Add to the members of a class. -/
def add (cls : OpenClass) (s : CharSet) : OpenClass :=
  { cls with members := .union cls.members s }

/-- The set that was read so far. Case variants are added before an operator is applied. -/
def read (cls : OpenClass) (flags : Flags) : CharSet :=
  match cls.pending with
  | some (op, left) => op.apply left (flags.fold cls.members)
  | none => flags.fold cls.members

/-- Go on behind an operator. -/
def operator (cls : OpenClass) (flags : Flags) (op : SetOp) : OpenClass :=
  { cls with pending := some (op, cls.read flags), members := .none }

/-- The set of a class that is complete. -/
def close? (cls : OpenClass) (flags : Flags) : Option CharSet :=
  flags.negate? cls.negated (cls.read flags)

end OpenClass

/-- The name of an ASCII class between `[:` and `:]`, and whether the class is negated. -/
def posixName : Reader (Bool × CharSet) := do
  Reader.word ['[', ':']
  let negated ← Reader.optional (Reader.char '^')
  let name ← Reader.takeWhile (· ≠ ':')
  Reader.word [':', ']']
  return (negated.isSome, ← StateT.lift (posixClass? (String.ofList name)))

namespace Flags

variable (flags : Flags)

/-- The beginning of a class, behind its bracket. A closing bracket that comes first is a character,
and so are hyphens there. -/
def openClass : Reader OpenClass := do
  flags.blanks
  let negated ← Reader.optional (flags.char '^')
  let hyphens ← Reader.many (flags.char '-') (← get).length
  let bracket ← if hyphens.isEmpty then Reader.optional (flags.char ']') else pure none
  let members : CharSet :=
    if !hyphens.isEmpty then .single '-' else if bracket.isSome then .single ']' else .none
  return ⟨negated.isSome, none, members⟩

/-- The set of a character in a class. Without Unicode it has to be ASCII. -/
def member? (c : Char) : Option CharSet :=
  if flags.unicode || c.toNat < 128 then some (.single c) else none

/-- A character or an escape in a class. -/
def item : Reader Item := do
  match ← Reader.next with
  | '\\' => flags.escape
  | c => return .char c

/-- Whether a hyphen that comes next is the middle of a range: it is not if a closing bracket or
another hyphen follows, which may stand behind blanks and the sign of one comment. -/
def inRange : List Char → Bool
  | '-' :: rest =>
      let rest := if !flags.verbose then rest else
        match trimStart rest with
        | '#' :: rest => trimStart rest
        | rest => rest
      rest.head? != some ']' && rest.head? != some '-'
  | _ => false

/-- A single element of a class, or a range between two characters. -/
def element : Reader CharSet := do
  let first ← flags.item
  flags.blanks
  if flags.inRange (← get) then
    flags.char '-'
    let last ← flags.item
    let low ← StateT.lift first.char?
    let high ← StateT.lift last.char?
    let _ ← StateT.lift (flags.member? low)
    let _ ← StateT.lift (flags.member? high)
    if high < low then failure
    return .range low.toNat high.toNat
  else
    match first with
    | .char c => StateT.lift (flags.member? c)
    | .set s => return s
    | .assertion _ => failure

/-- The rest of a class up to its closing bracket, inside the classes of a stack. -/
def classRest : (fuel : Nat) → OpenClass → (stack : List OpenClass) → Reader CharSet
  | 0, _, _ => failure
  | fuel + 1, cls, stack => do
      flags.blanks
      match ← get with
      | ']' :: rest =>
          set rest
          let s ← StateT.lift (cls.close? flags)
          match stack with
          | [] => return s
          | outer :: stack => classRest fuel (outer.add s) stack
      | '[' :: rest =>
          match ← Reader.optional posixName with
          | some (negated, s) =>
              let s ← StateT.lift (flags.negate? negated (flags.fold s))
              classRest fuel (cls.add s) stack
          | none =>
              set rest
              classRest fuel (← flags.openClass) (cls :: stack)
      | c :: d :: rest =>
          match if c = d then SetOp.ofChar? c else none with
          | some op =>
              set rest
              classRest fuel (cls.operator flags op) stack
          | none => classRest fuel (cls.add (← flags.element)) stack
      | _ => classRest fuel (cls.add (← flags.element)) stack

/-- A class, behind its opening bracket. -/
def brackets : Reader CharSet := do
  let cls ← flags.openClass
  flags.classRest ((← get).length + 1) cls []

end Flags

end Mandate.Regex
