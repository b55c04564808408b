import Rollout.Scenario.Basic
/-!
# Running scenarios

Scenarios run one after the other, each followed by its cleanup, and what became of each is
reported.
-/

namespace Rollout

open Http Time

/-- What became of a scenario. -/
structure Report where
  name : String
  startedAt : Civil
  elapsed : Span
  /-- The message of its fault. -/
  fault : Option String
  deriving DecidableEq

namespace Report

def passed (r : Report) : Bool := r.fault.isNone

/-- The instant as a point of civil time. -/
def civil (now : Nat) : Civil := ⟨now / nanosPerSecond, now % nanosPerSecond⟩

def textChars (s : String) : List Char := Json.stringChars s

/-- The JSON text of a report. -/
def chars (r : Report) : List Char :=
  let elapsed := Json.bracketed '\x7b' '\x7d'
    [Json.memberChars "secs" (toString r.elapsed.secs).toList,
      Json.memberChars "nanos" (toString r.elapsed.subsecNanos).toList]
  Json.bracketed '\x7b' '\x7d'
    [Json.memberChars "name" (textChars r.name),
      Json.memberChars "started_at" (textChars r.startedAt.text),
      Json.memberChars "elapsed" elapsed,
      Json.memberChars "error" (match r.fault with
        | some text => textChars text
        | none => Json.Value.null.chars)]

/-- The JSON text of some reports. -/
def listText (reports : List Report) : String :=
  String.ofList (Json.bracketed '[' ']' (reports.map chars))

/-- A word in a colour of the terminal, if there are colours. -/
def painted (color : Bool) (code word : String) : String :=
  if color then "\x1b[1;" ++ code ++ "m" ++ word ++ "\x1b[0m" else word

def statusText (color : Bool) (r : Report) : String :=
  if r.passed then painted color "32" "PASS" else painted color "31" "FAIL"

/-- One line, and one more for the fault. -/
def line (color : Bool) (r : Report) : String :=
  statusText color r ++ " " ++ r.name ++ " (" ++ r.elapsed.inSeconds.tenths ++ "s)"
    ++ (match r.fault with
      | some text => "\n     " ++ text
      | none => "")

def failedCount (reports : List Report) : Nat := (reports.filter fun r => !r.passed).length

/-- The reports for a reader, with their number at the end. -/
def summary (color : Bool) (reports : List Report) : String :=
  let failed := failedCount reports
  let count := toString (reports.length - failed) ++ " passed, " ++ toString failed ++ " failed"
  "\n".intercalate (reports.map (line color) ++ [count])

end Report

namespace Scenario

variable {σ : Type}

/-- What follows the body. -/
def cleanup (s : Scenario σ) (c : Cluster σ) : Run (Net σ) Fault Unit :=
  .both (if s.stopsDeployments then stopLeftovers c else pure ()) (tearDown c)

/-- The body and its cleanup. -/
def perform (s : Scenario σ) (c : Cluster σ) (t : Timings) : Run (Net σ) Fault Unit :=
  .withCleanup (s.body c t) (s.cleanup c)

/-- Runs a scenario and reports on it. -/
def run (s : Scenario σ) (c : Cluster σ) (t : Timings) : Run (Net σ) Fault Report := do
  let start ← Run.now
  let result ← (s.perform c t).attempt
  let stop ← Run.now
  return {
    name := s.name
    startedAt := Report.civil start
    elapsed := .ofNanos (stop - start)
    fault := match result with
      | .ok () => none
      | .error fault => some fault.message }

/-- Sets the cluster up and runs scenarios in order; nothing runs if the set-up fails. -/
def runAll (scenarios : List (Scenario σ)) (c : Cluster σ) (t : Timings) :
    Run (Net σ) Fault (List Report) := do
  setUp c
  Run.mapEach scenarios fun s => s.run c t

end Scenario

end Rollout
