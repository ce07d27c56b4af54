import Mandate.Ledger.File
import Mandate.Table

/-!
# Sessions

A command talks to its surroundings: it reads files, appends to them, prints lines, asks for the
time, and draws random bytes. A session is such a conversation as a value. At every point it has
either ended or says what it wants and how it goes on with the answer. Who carries it out decides
what the answers are; here they come from a folder and a source of bytes that are values too.
-/

namespace Mandate.Command

open Mandate.Time

/-- A conversation that ends in a result. -/
inductive Session (α : Type) where
  | done (result : α)
  /-- Read a whole file. -/
  | read (path : String) (next : Except FileFault Bytes → Session α)
  /-- Append to a file, which is created if it does not exist. -/
  | append (path : String) (content : Bytes) (next : Except FileFault Unit → Session α)
  | print (line : String) (next : Session α)
  | now (next : Timestamp → Session α)
  /-- Draw 32 random bytes. -/
  | draw (next : Bytes → Session α)

namespace Session

variable {α β : Type}

/-- Go on with the result of a session. -/
def andThen : Session α → (α → Session β) → Session β
  | .done a, f => f a
  | .read path next, f => .read path fun answer => (next answer).andThen f
  | .append path content next, f => .append path content fun answer => (next answer).andThen f
  | .print line next, f => .print line (next.andThen f)
  | .now next, f => .now fun time => (next time).andThen f
  | .draw next, f => .draw fun bytes => (next bytes).andThen f

instance : Monad Session where
  pure := .done
  bind := andThen

end Session

/-- Read a whole file. -/
def readFile (path : String) : Session (Except FileFault Bytes) := .read path .done

/-- Append to a file. -/
def appendFile (path : String) (content : Bytes) : Session (Except FileFault Unit) :=
  .append path content .done

def printLine (line : String) : Session Unit := .print line (.done ())

def currentTime : Session Timestamp := .now .done

def drawBytes : Session Bytes := .draw .done

/-- A folder with files in it, and no folders. -/
structure Folder where
  files : Table Bytes := {}
  deriving DecidableEq, Repr, Inhabited

namespace Folder

/-- Whether a path leads to the folder itself or to one that holds it. -/
def isAbove (path : String) : Bool :=
  path.toList.all fun c => c = '.' || c = '/'

/-- Read a file of a folder. -/
def read (folder : Folder) (path : String) : Except FileFault Bytes :=
  match folder.files.get? path with
  | some content => .ok content
  | none => .error (if isAbove path && path ≠ "" then .isDirectory else .notFound)

/-- Append to a file of a folder. There is nothing further down in which a file could be created. -/
def append (folder : Folder) (path : String) (content : Bytes) : Except FileFault Folder :=
  if path = "" then .error .notFound
  else if isAbove path then .error .isDirectory
  else if path.toList.contains '/' then .error .notFound
  else .ok ⟨folder.files.modify path [] (· ++ content)⟩

end Folder

/-- The surroundings of a session as values. -/
structure Surroundings where
  folder : Folder
  time : Timestamp
  /-- What the draws give, one after the other. -/
  bytes : Nat → Bytes
  drawn : Nat := 0
  /-- The printed lines, the last one first. -/
  printed : List String := []

/-- Carry a session out. -/
def Session.run {α : Type} : Session α → Surroundings → α × Surroundings
  | .done a, s => (a, s)
  | .read path next, s => (next (s.folder.read path)).run s
  | .append path content next, s =>
      match s.folder.append path content with
      | .ok folder => (next (.ok ())).run { s with folder }
      | .error fault => (next (.error fault)).run s
  | .print line next, s => next.run { s with printed := line :: s.printed }
  | .now next, s => (next s.time).run s
  | .draw next, s => (next (s.bytes s.drawn)).run { s with drawn := s.drawn + 1 }

end Mandate.Command
