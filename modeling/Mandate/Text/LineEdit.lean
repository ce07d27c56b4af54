import Mandate.Text.Bytes

/-!
# Editing files line by line

Lines of a file are changed, dropped, inserted, repeated or exchanged. They are counted from zero,
and an edited file ends every line with a newline.
-/

namespace Mandate.Text

/-- One edit of the lines of a file. -/
inductive LineEdit where
  /-- Put another line in place of a line. -/
  | change (line : Nat) (content : List UInt8)
  | delete (line : Nat)
  | insert (line : Nat) (content : List UInt8)
  | duplicate (line : Nat)
  | swap (line other : Nat)
  deriving DecidableEq, Repr

namespace LineEdit

/-- Apply an edit to some lines. An edit of a line that is not there changes nothing. -/
def apply (lines : List (List UInt8)) : LineEdit → List (List UInt8)
  | .change line content => lines.set line content
  | .delete line => lines.eraseIdx line
  | .insert line content => lines.take line ++ content :: lines.drop line
  | .duplicate line =>
      match lines[line]? with
      | some content => lines.take line ++ content :: lines.drop line
      | none => lines
  | .swap line other =>
      match lines[line]?, lines[other]? with
      | some x, some y => (lines.set line y).set other x
      | _, _ => lines

end LineEdit

/-- A file with the given lines. -/
def ofLines (lines : List (List UInt8)) : List UInt8 :=
  lines.flatMap fun line => line ++ [10]

end Mandate.Text
