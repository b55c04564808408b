import Std.Time.DateTime.Timestamp
import Rollout.Program.Session
/-!
# The command line

One session with the arguments, the environment and the files of the process. What carries
requests over a network is no part of the program, so every connection is refused.
-/

namespace Rollout

/-- A server that takes no connection. -/
def refusing : Http.Server Unit := fun _ _ s => (⟨0, .refused⟩, s)

def readEnvironment : IO Settings.Environment := do
  let pairs ← Settings.variableNames.mapM fun name => do
    return (name, ← IO.getEnv name)
  return fun name => (pairs.lookup name).join

def readSource (path : String) : IO Settings.Source := do
  try
    return .bytes (← IO.FS.readBinFile path).toList
  catch fault =>
    match fault with
    | .inappropriateType none .. => return .directory
    | .inappropriateType (some _) .. => return .underFile
    | .permissionDenied .. => return .forbidden
    | _ => return .missing

/-- The file that the arguments ask for. -/
def readSettings (arguments : List String) : IO Settings.Source :=
  match Session.Request.ofArguments (.parse arguments) with
  | .run (some path) _ => readSource path
  | _ => return .missing

/-- Nanoseconds since the start of 1970. -/
def wallClock : IO Nat := do
  return (← Std.Time.Timestamp.now).toNanosecondsSinceUnixEpoch.val.toNat

def say (settings : Settings) : Utterance → IO Unit
  | .print line => IO.println line
  | .complain line => IO.eprintln line
  | .log level text => do
    let time := (Report.civil (← wallClock)).text
    IO.print (Session.logText settings time level text)

/-- Runs a session; its exit status. -/
def runSession (arguments : List String) : IO UInt32 := do
  let source ← readSettings arguments
  let surroundings : Surroundings :=
    ⟨← readEnvironment, fun _ => source, "unknown", "unknown"⟩
  let step := Session.run refusing surroundings false arguments .usual (← wallClock) ⟨(), []⟩
  match step.outcome with
  | .done (settings, ending) =>
    for utterance in ending.said do
      say (settings.getD .usual) utterance
    return if ending.success then 0 else 1
  | .failed fault =>
    IO.eprintln fault.message
    return 1
  | .panicked text =>
    IO.eprintln text
    return 101

end Rollout

def main (arguments : List String) : IO UInt32 := Rollout.runSession arguments
