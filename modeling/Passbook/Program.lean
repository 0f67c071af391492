import Passbook.CommandLine

/-!
# The program

`run` is the whole program over a `Host`, which reads and writes files, prints,
and tells the time. It reads the arguments, runs the script, prints the table of
accounts, and writes the journal and the audit trail where asked to. All entries
of a run carry the time of its start.

Exit codes are 0 for success, 1 for a fault, 2 for a misuse of the command line,
and 101 if a number is too wide for its column or a list is longer than any can
be. A program that runs out of memory is cut off, and has no exit code.
-/

namespace Passbook.Program

/-- What the program needs of the system it runs on. -/
structure Host (m : Type → Type) where
  /-- The content of a file, or why it cannot be opened. -/
  load : String → m (Except String Script.Content)
  /-- Creates a file with some content, or tells why it cannot. -/
  store : String → String → m (Except String Unit)
  /-- Prints to standard output. -/
  print : String → m (Except String Unit)
  /-- Prints a message about what went wrong. -/
  complain : String → m Unit
  /-- The time. -/
  now : m Instant
  /-- How many bytes of memory there are. -/
  memory : m Nat

variable {m : Type → Type} [Monad m]

/-- How the program ends. -/
inductive Ending where
  /-- With an exit code. -/
  | exit (code : UInt32)
  /-- Cut off by the system. -/
  | cutOff
deriving DecidableEq

/-- How the program ends if its run ended early. -/
def Ending.ofHalt : Halt → Ending
  | .refused _ => .exit 1
  | .tooWide | .noRoom .tooLarge => .exit 101
  | .noRoom .outOfMemory => .cutOff

/-- A step of the program, which may end it. -/
abbrev Step (m : Type → Type) : Type → Type := ExceptT Halt m

/-- Sends as much of a table as there is, and goes on if that is all of it. -/
def send (sheet : Csv.Sheet) (write : String → m (Except Fault Unit)) :
    Step m Unit := do
  match ← (liftM (write sheet.text) : Step m _) with
  | .error fault => throw (.refused fault)
  | .ok () => unless sheet.complete do throw .tooWide

/-- Writes a table to a file if a path is given. -/
def sendTo (host : Host m) (path : Option String) (sheet : Csv.Sheet) :
    Step m Unit :=
  match path with
  | none => pure ()
  | some path => send sheet fun text => do
    match ← host.store path text with
    | .ok () => return .ok ()
    | .error reason => return .error (Run.cannotCreate path reason)

/-- Runs a script as asked for. -/
def runScript (host : Host m) (options : CommandLine.Options) :
    Step m Unit := do
  let clock := Clock.still (← host.now)
  let memory ← host.memory
  ofExcept (options.run.start memory)
  match ← (liftM (host.load options.input) : Step m _) with
  | .error reason => throw (.refused (Run.cannotOpen options.input reason))
  | .ok script =>
    let statement ← ofExcept (Run.statement clock memory options.run script)
    send (Report.accounts statement.accounts) fun text => do
      match ← host.print text with
      | .ok () => return .ok ()
      | .error reason => return .error (.inputOutput reason)
    sendTo host options.journal (Report.journal statement.records)
    sendTo host options.audit (Report.audit statement.audit)

/-- What is said about a run that ended early. -/
def haltMessage : Halt → String
  | .refused fault => fault.message
  | .tooWide => "a number is too wide for its column"
  | .noRoom _ => "there is no room for the workers or a batch"

/-- What is said about arguments that are not accepted. -/
def misuseMessage : String :=
  "error: these arguments are not accepted; try '--help'"

/-- The program; the answer is how it ends. -/
def run (host : Host m) (arguments : List String) : m Ending := do
  match CommandLine.parse arguments with
  | .error .helpRequested =>
    let _ ← host.print CommandLine.usage
    return .exit 0
  | .error _ =>
    host.complain misuseMessage
    return .exit 2
  | .ok options =>
    match ← (runScript host options).run with
    | .ok () => return .exit 0
    | .error halt =>
      host.complain (haltMessage halt)
      return .ofHalt halt

end Passbook.Program
