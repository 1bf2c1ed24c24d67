import Std.Time
import TrialRouting.Greeter

/-!
# The command

Where the greeter command meets the machine: its environment, its clock, the trial
file and the terminal.
-/

namespace TrialRouting

/-- What a file holds, if it can be read. -/
def readText? (file : String) : IO (Option String) := do
  try
    return some (← IO.FS.readFile file)
  catch _ =>
    return none

/-- Milliseconds of the wall clock. -/
def wallClock : IO UInt64 := do
  let now ← Std.Time.Timestamp.now
  return now.toMillisecondsSinceUnixEpoch.val.toNat.toUInt64

/-- The variables that may set options, as they are now. -/
def environment : IO (List (String × String)) := do
  let names := Greeter.options.filterMap (·.setBy)
  return (← names.mapM fun name => do return (← IO.getEnv name).map (name, ·)).filterMap id

end TrialRouting

open TrialRouting in
/-- Runs the command: reads what it needs, prints what it reports. -/
def main (args : List String) : IO UInt32 := do
  let found ← environment
  let report ← match Greeter.Settings.read args (List.lookup · found) with
    | .error parting => pure (Greeter.Report.ofParting parting)
    | .ok settings => do
        let text ← match settings.trialFile with
          | none => pure none
          | some file => readText? file
        pure (settings.run (fun _ => text) (← wallClock))
  IO.print report.output
  IO.eprint report.complaint
  return report.code
