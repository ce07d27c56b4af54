import Mandate.Policy.Error
import Mandate.Text.Characters

/-!
# Field paths

A path addresses a node of a document. Its text is cut at dots; each token is a key, a key with
indices in brackets behind it, indices alone, or a bare integer, which indexes an array as well.
Resolving a path never fails with an error: a missing key, an index out of range or a step into
the wrong kind of value finds nothing.
-/

namespace Mandate.Rules

open Mandate.Json Mandate.Text

/-- One step into a document. -/
inductive Step where
  | key (name : String)
  | index (i : Nat)
  deriving DecidableEq, Repr

/-- A parsed path, with the text it came from. -/
structure FieldPath where
  raw : String
  steps : List Step
  deriving DecidableEq, Repr

namespace FieldPath

/-- The indices in brackets behind a name. -/
def indices (fuel : Nat) (s : List Char) : Except PathFault (List Step) :=
  match fuel, s with
  | _, [] => .ok []
  | 0, _ => .ok []
  | fuel + 1, c :: rest =>
      match splitOnce ']' (c :: rest) with
      | none => .error .unclosed
      | some (inside, after) =>
          if c ≠ '[' then .error .trailing
          else
            match word? (inside.drop 1) with
            | none => .error .badIndex
            | some i => do
                let more ← indices fuel after
                return .index i :: more

/-- The steps of one token: an integer is an index, anything else a name with indices. -/
def tokenSteps (token : List Char) : Except PathFault (List Step) :=
  if token.isEmpty then .error .emptySegment
  else
    match word? token with
    | some i => .ok [.index i]
    | none =>
        let name := token.takeWhile (· ≠ '[')
        let start := if name.isEmpty then [] else [Step.key (String.ofList name)]
        (indices token.length (token.drop name.length)).map (start ++ ·)

/-- The steps of all tokens. -/
def allSteps : List (List Char) → Except PathFault (List Step)
  | [] => .ok []
  | token :: rest => do
      let first ← tokenSteps token
      let more ← allSteps rest
      return first ++ more

/-- Parse a path. -/
def parse (raw : String) : Except BodyFault FieldPath :=
  if raw.isEmpty then .error .emptyPath
  else
    match allSteps (splitOn '.' raw.toList) with
    | .ok steps => .ok ⟨raw, steps⟩
    | .error fault => .error (.badPath raw fault)

/-- Follow one step. -/
def follow (step : Step) (doc : Value) : Option Value :=
  match step, doc with
  | .key name, .object members => members.lookup name
  | .index i, .array items => items[i]?
  | _, _ => none

/-- Follow steps from a document. -/
def resolveSteps : List Step → Value → Option Value
  | [], doc => some doc
  | step :: rest, doc => (follow step doc).bind (resolveSteps rest)

/-- The node that a path addresses. -/
def resolve (path : FieldPath) (doc : Value) : Option Value :=
  resolveSteps path.steps doc

end FieldPath

end Mandate.Rules
