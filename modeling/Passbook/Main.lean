import Passbook.Program
import Std.Time.DateTime.Timestamp

/-!
# The executable

Connects the program to the files, the standard streams and the clock of the
machine.

## Main results

* `main` — runs the program on the arguments and answers its exit code, or 134,
  by which shells know a program that was cut off.
-/

namespace Passbook.Main

/-- Turns an error of the system into its text. -/
def caught {α : Type} (action : IO α) : IO (Except String α) := do
  match ← action.toBaseIO with
  | .ok a => return .ok a
  | .error e => return .error (toString e)

/-- The content of a file. -/
def load (path : String) : IO (Except String Script.Content) := do
  match ← caught (IO.FS.Handle.mk path .read) with
  | .error reason => return .error reason
  | .ok handle =>
    match ← caught handle.readBinToEnd with
    | .ok bytes => return .ok (.read bytes.toList)
    | .error reason => return .ok (.unreadable reason)

/-- The memory that the system tells of in kilobytes, or no limit if it does
not. -/
def memory : IO Nat := do
  match ← caught (IO.FS.readFile "/proc/meminfo") with
  | .error _ => return Room.largestPiece
  | .ok text =>
    let digits := ((text.splitOn "\n").headD "").toList.filter Char.isDigit
    if digits.isEmpty then return Room.largestPiece
    return 1024 * Nat.ofDigitChars 10 digits 0

/-- The machine that the program runs on. -/
def machine : Program.Host IO where
  load := load
  store path text := caught (IO.FS.writeFile path text)
  print text := caught do
    let out ← IO.getStdout
    out.putStr text
    out.flush
  complain text := IO.eprintln text
  now := do
    let nanos := (← Std.Time.Timestamp.now).toNanosecondsSinceUnixEpoch.toInt
    return ⟨nanos / 1000000000, (nanos % 1000000000).toNat⟩
  memory := memory

end Passbook.Main

/-- Runs the program on its arguments. -/
def main (arguments : List String) : IO UInt32 := do
  match ← Passbook.Program.run Passbook.Main.machine arguments with
  | .exit code => return code
  | .cutOff => return 134
