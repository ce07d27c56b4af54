import Mandate.Toml.Scalar

/-!
# TOML documents

A document is a sequence of lines: members of the table that was opened last, headers that open
tables, and comments. An array may spread over lines and end in a comma; an inline table stays on
its line and may not.
-/

namespace Mandate.Toml

open Mandate.Text

/-- Blanks, line breaks and comments. -/
def filler : Reader Unit := do
  let _ ← Reader.many
    ((do let _ ← Reader.takeSome Scalar.isSpace) <|> Scalar.newline <|> Scalar.comment)
    (← get).length

/-- Things with commas between them, none at all included. -/
def commaSeparated {α : Type} (read : Reader α) : Reader (List α) := do
  match ← Reader.optional read with
  | none => return []
  | some first => return first :: (← Reader.many (Reader.char ',' *> read) (← get).length)

/-- The table that the members in braces make. -/
def inlineTable? (pairs : List (List String × Item)) : Option Item := do
  let add (members : Members) (pair : List String × Item) : Option Members := do
    let last ← pair.1.getLast?
    addKey .inlineKey pair.1.dropLast last pair.2 .inline members
  let members ← pairs.foldlM add []
  return .table .inline members

/-- A value, inside the given number of containers. -/
def value : (fuel depth : Nat) → Reader Item
  | 0, _ => failure
  | fuel + 1, depth => do
      match ← Reader.peek with
      | some '[' => do
          if Scalar.maxDepth ≤ depth then failure
          Reader.char '['
          let element := do
            filler
            let item ← value fuel (depth + 1)
            filler
            return item
          let items ← commaSeparated element
          if !items.isEmpty then
            let _ ← Reader.optional (Reader.char ',')
          filler
          Reader.char ']'
          return .array items
      | some '\x7b' => do
          if Scalar.maxDepth ≤ depth then failure
          Reader.char '\x7b'
          let pair := do
            let key ← Scalar.key
            Reader.char '='
            Scalar.space
            let item ← value fuel (depth + 1)
            Scalar.space
            return (key, item)
          let pairs ← commaSeparated pair
          Scalar.space
          Reader.char '\x7d'
          StateT.lift (inlineTable? pairs)
      | _ => Scalar.item

/-- A line of a document. -/
inductive Line where
  | blank
  | member (key : List String) (item : Item)
  | table (path : List String)
  | element (path : List String)

/-- The content of a line. -/
def lineContent : Reader Line := do
  Scalar.space
  match ← Reader.peek with
  | some '[' =>
      (do Reader.word ['[', '[']
          let path ← Scalar.key
          Reader.word [']', ']']
          return .element path) <|>
        (do Reader.char '['
            let path ← Scalar.key
            Reader.char ']'
            return .table path)
  | some c =>
      if c = '#' ∨ c = '\n' ∨ c = '\r' then return .blank
      else
        let key ← Scalar.key
        Reader.char '='
        Scalar.space
        let fuel := (← get).length
        return .member key (← value (fuel + 1) 0)
  | none => return .blank

/-- A line with the comment and the break at its end. -/
def line : Reader Line := do
  let content ← lineContent
  Scalar.space
  let _ ← Reader.optional Scalar.comment
  Scalar.newline <|> Reader.done
  return content

/-- The document so far, and the path of the table that was opened last. -/
structure Draft where
  current : List String
  members : Members

/-- Add a line to a document. -/
def Draft.add (draft : Draft) : Line → Option Draft
  | .blank => some draft
  | .member key item => do
      let last ← key.getLast?
      let members ← changeAt .header (addKey .dottedKey key.dropLast last item) draft.current
        .header draft.members
      return { draft with members }
  | .table path => do
      let last ← path.getLast?
      let members ← changeAt .header (fun _ => openTable last) path.dropLast .header draft.members
      return ⟨path, members⟩
  | .element path => do
      let last ← path.getLast?
      let members ← changeAt .header (fun _ => openElement last) path.dropLast .header draft.members
      return ⟨path, members⟩

/-- Add the lines of a text to a document. Every line but the last takes at least its break. -/
def addLines : (fuel : Nat) → Draft → List Char → Option Members
  | _, draft, [] => some draft.members
  | 0, _, _ => none
  | fuel + 1, draft, s => do
      let (content, rest) ← line s
      addLines fuel (← draft.add content) rest

/-- The table that a text denotes. A byte order mark at its start is skipped. -/
def ofText? (text : String) : Option Members :=
  let s := match text.toList with
    | c :: rest => if c.toNat = 0xFEFF then rest else c :: rest
    | [] => []
  addLines s.length ⟨[], []⟩ s

end Mandate.Toml
