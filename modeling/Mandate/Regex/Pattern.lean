import Mandate.Regex.Classes

/-!
# Patterns and what they match

A pattern denotes a set of places in a text: a start, an end, and the characters before and
after, which assertions look at. Matching takes one character at a time. `steps` gives what is
left to match after a character, and a text contains a match if, from some position on, a
sequence of steps ends in a pattern that accepts the empty text there.
-/

namespace Mandate.Regex

/-- A set of code points. -/
inductive CharSet where
  | range (low high : Nat)
  | property (p : Property)
  | union (a b : CharSet)
  | inter (a b : CharSet)
  | complement (a : CharSet)
  | folded (a : CharSet)
  deriving DecidableEq, Repr, Inhabited

namespace CharSet

/-- Membership. A folded set also holds the case variants of its members. -/
def holds : CharSet → Nat → Bool
  | .range low high, n => low ≤ n && n ≤ high
  | .property p, n => p.holds n
  | .union a b, n => a.holds n || b.holds n
  | .inter a b, n => a.holds n && b.holds n
  | .complement a, n => !a.holds n
  | .folded a, n => (caseVariants n).any a.holds

/-- No character. -/
def none : CharSet := .range 1 0

/-- One character. -/
def single (c : Char) : CharSet := .range c.toNat c.toNat

/-- The characters of the first set that are not in the second. -/
def diff (a b : CharSet) : CharSet := .inter a (.complement b)

/-- The characters of exactly one of the two sets. -/
def exclusive (a b : CharSet) : CharSet := .diff (.union a b) (.inter a b)

/-- The union of a list of ranges. -/
def ofRanges (l : List (Char × Char)) : CharSet :=
  l.foldr (fun (a, b) rest => .union (.range a.toNat b.toNat) rest) none

end CharSet

/-- A condition on the word characters around a position. -/
inductive WordCondition where
  | boundary
  | noBoundary
  | start
  | stop
  | startHalf
  | stopHalf
  deriving DecidableEq, Repr, Inhabited

/-- Whether a condition holds, given whether there is a word character before and after. -/
def WordCondition.holds : WordCondition → (before after : Bool) → Bool
  | .boundary, before, after => before != after
  | .noBoundary, before, after => before == after
  | .start, before, after => !before && after
  | .stop, before, after => before && !after
  | .startHalf, before, _ => !before
  | .stopHalf, _, after => !after

/-- A condition on a position, which consumes nothing. With `crlf`, lines end at a carriage
return, at a line feed, and at the two of them together; without `unicode`, words consist of ASCII
characters. -/
inductive Assertion where
  | textStart
  | textEnd
  | lineStart (crlf : Bool)
  | lineEnd (crlf : Bool)
  | word (condition : WordCondition) (unicode : Bool)
  deriving DecidableEq, Repr, Inhabited

/-- Whether an assertion holds between two characters, either of which may be absent. No line
starts or ends between a carriage return and its line feed. -/
def Assertion.holds (before after : Option Char) : Assertion → Bool
  | .textStart => before.isNone
  | .textEnd => after.isNone
  | .lineStart false => before.all (· = '\n')
  | .lineEnd false => after.all (· = '\n')
  | .lineStart true => before.all fun c => c = '\n' || (c = '\r' && after != some '\n')
  | .lineEnd true => after.all fun c => c = '\r' || (c = '\n' && before != some '\r')
  | .word condition unicode =>
      let isWord := if unicode then isWord else isAsciiWord
      condition.holds (before.any (isWord ·.toNat)) (after.any (isWord ·.toNat))

/-- A pattern. A repetition without a maximum is unbounded. -/
inductive Pattern where
  | empty
  | chars (s : CharSet)
  | assertion (a : Assertion)
  | seq (p q : Pattern)
  | alt (p q : Pattern)
  | rep (p : Pattern) (min : Nat) (max : Option Nat)
  deriving DecidableEq, Repr, Inhabited

namespace Pattern

/-- Whether a pattern accepts the empty text at a position. -/
def accepts (before after : Option Char) : Pattern → Bool
  | .empty => true
  | .chars _ => false
  | .assertion a => a.holds before after
  | .seq p q => p.accepts before after && q.accepts before after
  | .alt p q => p.accepts before after || q.accepts before after
  | .rep p min _ => min == 0 || p.accepts before after

/-- Patterns one after another. -/
def sequence : List Pattern → Pattern
  | [] => .empty
  | [p] => p
  | p :: rest => .seq p (sequence rest)

/-- One pattern after another. -/
def andThen (p q : Pattern) : Pattern :=
  match p with
  | .empty => q
  | p => .seq p q

/-- What is left of a repetition after `skipped` empty rounds and the one that is under way. -/
def remaining (p : Pattern) (min : Nat) (max : Option Nat) (skipped : Nat) : Pattern :=
  match max with
  | some n =>
    if n ≤ skipped + 1 then .empty
    else .rep p (min - skipped - 1) (some (n - skipped - 1))
  | none => .rep p (min - skipped - 1) none

/-- The patterns that may be left to match after one character. -/
def steps (before : Option Char) (c : Char) : Pattern → List Pattern
  | .empty => []
  | .chars s => if s.holds c.toNat then [.empty] else []
  | .assertion _ => []
  | .alt p q => p.steps before c ++ q.steps before c
  | .seq p q =>
      let first := (p.steps before c).map (andThen · q)
      if p.accepts before (some c) then first ++ q.steps before c else first
  | .rep p min max =>
      if max = some 0 then []
      else
        let inner := p.steps before c
        let rounds := if p.accepts before (some c) then List.range (min + 1) else [0]
        rounds.flatMap fun skipped =>
          if max.any (· ≤ skipped) then []
          else inner.map (andThen · (remaining p min max skipped))

/-- Each pattern once. -/
def distinct (l : List Pattern) : List Pattern :=
  l.foldl (fun seen p => if seen.contains p then seen else p :: seen) []

/-- Search on from a position with the patterns that are under way. A match may begin at every
position. -/
def search (p : Pattern) : (before : Option Char) → (active : List Pattern) → List Char → Bool
  | before, active, text =>
      let candidates := p :: active
      let after := text.head?
      if candidates.any (·.accepts before after) then true
      else
        match text with
        | [] => false
        | c :: rest => search p (some c) (distinct (candidates.flatMap (steps before c))) rest
  termination_by _ _ text => text.length

/-- Whether a text contains a match. -/
def isMatch (p : Pattern) (text : String) : Bool :=
  search p none [] text.toList

end Pattern

end Mandate.Regex
