import Mandate.Command.Invocation

/-!
# Command lines

A command line names a task and gives its options. Every option has a long name of its own, and
its value follows as the next word or after an equals sign. The configuration and the form of the
log may be given before the task or among its options; a later configuration counts. No option
may be given twice in one place, an option that names a file may not be empty, and a word that
begins with a hyphen is no value.

Words are read from left to right, and the first fault or request for help ends the reading.
-/

namespace Mandate.Command

/-- What an option takes. -/
inductive OptionKind where
  /-- Nothing: it is there or not. -/
  | switch
  /-- The name of a file. -/
  | file
  | text
  deriving DecidableEq, Repr

/-- An option of a command line. -/
structure OptionRule where
  name : String
  kind : OptionKind
  deriving DecidableEq, Repr

/-- The options that stand in any place. -/
def generalOptions : List OptionRule := [⟨"config", .file⟩, ⟨"log-json", .switch⟩]

/-- The options in one place, as they were given. -/
abbrev Given := List (String × String)

/-- How a reading ends that leads to no invocation. -/
inductive Halt where
  | help
  | version
  | usage (text : String)
  deriving DecidableEq, Repr

/-- One word of a command line. -/
inductive Word where
  /-- Two hyphens, after which no options follow. -/
  | separator
  | short (letters : String)
  | long (name : String) (value : Option String)
  | plain (text : String)
  deriving DecidableEq, Repr

/-- The two parts of a text around its first equals sign. -/
def splitAtEquals (s : List Char) : String × Option String :=
  match s.span (· ≠ '=') with
  | (name, '=' :: value) => (String.ofList name, some (String.ofList value))
  | (name, _) => (String.ofList name, none)

/-- Read a word. A single hyphen is a plain word. -/
def Word.ofText (text : String) : Word :=
  match text.toList with
  | ['-', '-'] => .separator
  | '-' :: '-' :: rest =>
      let (name, value) := splitAtEquals rest
      .long name value
  | '-' :: c :: rest => .short (String.ofList (c :: rest))
  | _ => .plain text

/-- Take an option with its value. -/
def take (given : Given) (rule : OptionRule) (value : String) : Except Halt Given :=
  if given.any (·.1 == rule.name) then
    .error (.usage ("--" ++ rule.name ++ " cannot be used multiple times"))
  else if rule.kind = .file && value.isEmpty then
    .error (.usage ("--" ++ rule.name ++ " requires a value"))
  else .ok (given ++ [(rule.name, value)])

/-- The value of an option in the words that follow it. -/
def takeNext (name : String) : List String → Except Halt (String × List String)
  | [] => .error (.usage ("--" ++ name ++ " requires a value"))
  | word :: rest =>
      match Word.ofText word with
      | .plain text => .ok (text, rest)
      | _ => .error (.usage ("--" ++ name ++ " requires a value"))

/-- Read options up to the first plain word. Gives the options and the words from there on. -/
def readOptions (rules : List OptionRule) (version : Bool) (given : Given) :
    (limit : Nat) → List String → Except Halt (Given × List String)
  | 0, words => .ok (given, words)
  | _, [] => .ok (given, [])
  | limit + 1, word :: rest =>
      let unexpected : Halt := .usage ("unexpected argument '" ++ word ++ "'")
      match Word.ofText word with
      | .plain _ => .ok (given, word :: rest)
      | .separator => if rest.isEmpty then .ok (given, []) else .error unexpected
      | .short letters =>
          if letters.startsWith "h" then .error .help
          else if version && letters.startsWith "V" then .error .version
          else .error unexpected
      | .long "help" none => .error .help
      | .long name value =>
          if version && name = "version" && value.isNone then .error .version
          else
            match rules.find? (·.name == name) with
            | none => .error unexpected
            | some rule =>
                match rule.kind, value with
                | .switch, none => do readOptions rules version (← take given rule "") limit rest
                | .switch, some _ => .error unexpected
                | _, some value => do
                    readOptions rules version (← take given rule value) limit rest
                | _, none => do
                    let (value, rest) ← takeNext name rest
                    readOptions rules version (← take given rule value) limit rest

/-- The value of an option that has to be given. -/
def required (given : Given) (name : String) : Except Halt String :=
  match given.lookup name with
  | some value => .ok value
  | none => .error (.usage ("--" ++ name ++ " is required"))

/-- The name of a key unless another one is given. -/
def defaultKeyId : String := "trustd-1"

/-- A task with its options. -/
structure TaskRule where
  name : String
  options : List OptionRule
  /-- The task that some options make. -/
  task : Given → Except Halt Task

/-- The tasks of the command line. -/
def taskRules : List TaskRule :=
  [{ name := "simulate"
     options := [⟨"policy", .file⟩, ⟨"input", .file⟩, ⟨"engine", .text⟩]
     task := fun given => do
       let policy ← required given "policy"
       let input ← required given "input"
       let engine := (given.lookup "engine").getD Rules.engineName
       return .simulate { policy, input, engine } },
   { name := "verify"
     options := [⟨"fixture", .file⟩, ⟨"ledger", .file⟩, ⟨"signing-key", .file⟩, ⟨"kid", .text⟩]
     task := fun given => do
       let fixture ← required given "fixture"
       return .verify
         { fixture, ledger := given.lookup "ledger", signingKey := given.lookup "signing-key",
           keyId := (given.lookup "kid").getD defaultKeyId } },
   { name := "verify-ledger"
     options := [⟨"ledger", .file⟩]
     task := fun given => return .verifyLedger (← required given "ledger") },
   { name := "keygen"
     options := [⟨"out", .file⟩, ⟨"kid", .text⟩]
     task := fun given => do
       let out ← required given "out"
       return .keygen { out, keyId := (given.lookup "kid").getD defaultKeyId } }]

/-- Read the words after a task. -/
def readTask (rule : TaskRule) (outer : Given) (words : List String) : Except Halt Invocation := do
  let (given, rest) ←
    readOptions (rule.options ++ generalOptions) false [] (words.length + 1) words
  match rest with
  | word :: _ => throw (.usage ("unexpected argument '" ++ word ++ "'"))
  | [] =>
      let task ← rule.task given
      return { config := (given.lookup "config").or (outer.lookup "config"), task }

/-- Answer a request for help about a task. -/
def helpAbout : List String → Halt
  | [] => .help
  | name :: _ =>
      if name = "help" || taskRules.any (·.name == name) then .help
      else .usage ("unrecognized subcommand '" ++ name ++ "'")

/-- Read a command line. -/
def Invocation.ofWords (words : List String) : Except Halt Invocation := do
  let (outer, rest) ← readOptions generalOptions true [] (words.length + 1) words
  match rest with
  | [] => throw (.usage "a subcommand is required")
  | name :: rest =>
      match taskRules.find? (·.name == name) with
      | some rule => readTask rule outer rest
      | none =>
          if name = "help" then throw (helpAbout rest)
          else throw (.usage ("unrecognized subcommand '" ++ name ++ "'"))

/-- The name and the version of the program. -/
def versionLine : String := "trustd 0.4.2"

/-- The help text. -/
def helpLines : List String :=
  ["Usage: trustd [OPTIONS] <COMMAND>", "", "Commands:",
    "  simulate --policy <FILE> --input <FILE> [--engine <NAME>]",
    "  verify --fixture <FILE> [--ledger <FILE>] [--signing-key <FILE>] [--kid <KID>]",
    "  verify-ledger --ledger <FILE>",
    "  keygen --out <FILE> [--kid <KID>]", "", "Options:",
    "  --config <FILE>  Engine configuration",
    "  --log-json       Write logs as JSON lines",
    "  -h, --help       Print help",
    "  -V, --version    Print version"]

/-- How a run of the program ends. -/
inductive Outcome where
  | finished
  | failed (failure : Failure)
  | misused (text : String)
  deriving DecidableEq, Repr

/-- The exit code of an outcome. -/
def Outcome.code : Outcome → Nat
  | .finished => 0
  | .failed _ => 1
  | .misused _ => 2

/-- Run an invocation to its outcome. -/
def Invocation.outcome (i : Invocation) : Session Outcome := do
  match ← i.execute.run with
  | .ok () => return .finished
  | .error failure => return .failed failure

/-- Run a command line. -/
def run (words : List String) : Session Outcome := do
  match Invocation.ofWords words with
  | .ok invocation => invocation.outcome
  | .error .help => do
      helpLines.forM printLine
      return .finished
  | .error .version => do
      printLine versionLine
      return .finished
  | .error (.usage text) => return .misused text

end Mandate.Command
