import Mandate.Text.Characters

/-!
# Reading from the start of a text

A reader takes what it understands from the start of a text and leaves the rest. A failed reader
takes nothing, so an alternative begins where the failed one began.
-/

namespace Mandate.Text

/-- Reads a part of a text from its start. -/
abbrev Reader := StateT (List Char) Option

namespace Reader

/-- The next character, whichever it is. -/
def next : Reader Char := do
  match ← get with
  | c :: rest =>
      set rest
      return c
  | [] => failure

/-- One given character. -/
def char (c : Char) : Reader Unit := do
  match ← get with
  | d :: rest => if c = d then set rest else failure
  | [] => failure

/-- One of several characters. -/
def oneOf (cs : List Char) : Reader Char := do
  match ← get with
  | d :: rest =>
      if cs.contains d then
        set rest
        return d
      else failure
  | [] => failure

/-- A given word. -/
def word (w : List Char) : Reader Unit := do
  match dropStart? w (← get) with
  | some rest => set rest
  | none => failure

/-- The longest run of characters with a property. -/
def takeWhile (accepts : Char → Bool) : Reader (List Char) := do
  let s ← get
  set (s.dropWhile accepts)
  return s.takeWhile accepts

/-- A run of at least one character with a property. -/
def takeSome (accepts : Char → Bool) : Reader (List Char) := do
  let found ← takeWhile accepts
  if found.isEmpty then failure else return found

/-- What a reader gives, or nothing if it fails. -/
def optional {α : Type} (read : Reader α) : Reader (Option α) :=
  (some <$> read) <|> pure none

/-- The next character, which is left in place. -/
def peek : Reader (Option Char) := return (← get).head?

/-- The end of the text. -/
def done : Reader Unit := do
  match ← get with
  | [] => return ()
  | _ :: _ => failure

/-- The values of a reader as often as it succeeds, at most a given number of times. -/
def many {α : Type} (read : Reader α) : (limit : Nat) → Reader (List α)
  | 0 => return []
  | limit + 1 => do
      match ← optional read with
      | some a => return a :: (← many read limit)
      | none => return []

/-- Read a whole text. -/
def all? {α : Type} (read : Reader α) (text : String) : Option α :=
  match read text.toList with
  | some (a, []) => some a
  | _ => none

end Reader

end Mandate.Text
