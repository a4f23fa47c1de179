import RecordQuery.Command.Run
import Std.Time.DateTime.Timestamp

/-!
# The program

Reads the arguments, the clock and the standard input, and prints what the
command leaves behind.
-/

open RecordQuery

def currentTime : IO Timestamp := do
  let now ← Std.Time.Timestamp.now
  let nanoseconds : Int := now.toNanosecondsSinceUnixEpoch.toInt
  return ⟨nanoseconds / 1000000000, (nanoseconds % 1000000000).toNat, 0⟩

/-- The standard input, unless it is a terminal. -/
def standardInput : IO (Option String) := do
  let stream ← IO.getStdin
  if ← stream.isTty then return none
  else return some (← stream.readToEnd)

def main (arguments : List String) : IO UInt32 := do
  let outcome ←
    match Command.ofArguments? arguments with
    | none => pure Command.Outcome.usage
    | some command => do
        let input ← if command.readsInput then standardInput else pure none
        pure (command.run (← currentTime) input)
  IO.print outcome.output
  IO.eprint outcome.diagnostics
  return outcome.exitCode.toUInt32
