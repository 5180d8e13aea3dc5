import BatchBayes.Simulation.Session
import BatchBayes.Study.Document
import Std.Time.DateTime.Timestamp
/-!
The command line: run the simulated study that the environment describes and
print its best trial.
-/

open BatchBayes

/-- The current time. -/
private def currentInstant : IO Instant := do
  let now ← Std.Time.Timestamp.now
  let nanoseconds := now.toNanosecondsSinceUnixEpoch.val
  return ⟨Int.fdiv nanoseconds 1000000000, (Int.fmod nanoseconds 1000000000).toNat⟩

/-- The text of a file that can be read. -/
private def readText? (path : String) : IO (Option String) := do
  try
    return some (← IO.FS.readFile path)
  catch _ =>
    return none

/-- The configuration file that the environment names. -/
private def configurationFile : IO (Option Simulation.ConfigurationFile) := do
  match ← IO.getEnv Simulation.configurationVariable with
  | none => return none
  | some path => return some ⟨path, ← readText? path⟩

def main : IO UInt32 := do
  let file ← configurationFile
  let rounds ← IO.getEnv Simulation.roundsVariable
  let batch ← IO.getEnv Simulation.batchVariable
  match Simulation.session (← currentInstant) file rounds batch with
  | .ok trial =>
      IO.println trial.toJson.pretty
      return 0
  | .error complaint =>
      IO.eprintln complaint.text
      return 1
