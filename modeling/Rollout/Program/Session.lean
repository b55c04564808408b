import Rollout.Program.Arguments
import Rollout.Scenario.Report
/-!
# Sessions

One call of the program, from its arguments to its exit status. A session prints, complains and
logs; it succeeds only if every scenario it was asked for has passed.
-/

namespace Rollout

open Http Wire

/-- The version of the program. -/
def programVersion : String := "0.1.0"

/-- What a session needs from around it. -/
structure Surroundings where
  environment : Settings.Environment
  file : String → Settings.Source
  gitHash : String
  buildTime : String

/-- One thing that a session says. -/
inductive Utterance where
  | print (line : String)
  | complain (line : String)
  | log (level : LogLevel) (text : String)
  deriving DecidableEq, Repr

/-- How a session ends. -/
structure Ending where
  success : Bool
  said : List Utterance
  deriving DecidableEq, Repr

namespace Session

variable {σ : Type}

/-- What the command line asks for. -/
inductive Request where
  | version
  | list
  | run (settings : Option String) (scenarios : List String)
  deriving DecidableEq, Repr

def Request.ofArguments (a : Arguments) : Request :=
  if (a.get? "version").isSome then .version
  else if (a.get? "list").isSome then .list
  else .run (a.get? "settings") ((a.get? "scenario").map Arguments.names |>.getD [])

/-- The version on lines of its own. -/
def versionText (s : Surroundings) : String :=
  let line (key value : String) : String := "  " ++ String.ofList (Json.stringChars key) ++ ": "
    ++ String.ofList (Json.stringChars value)
  "\x7b\n" ++ ",\n".intercalate [line "version" programVersion, line "git_hash" s.gitHash,
    line "build_time" s.buildTime] ++ "\n\x7d"

/-- A text with blanks after it up to a width. -/
def padded (width : Nat) (s : String) : String :=
  s ++ String.ofList (List.replicate (width - s.length) ' ')

def listLines : List Utterance :=
  (Scenario.all (σ := Unit)).map fun s => .print (padded 32 s.name ++ " " ++ s.description)

/-- The settings of a file, or the usual ones, with the environment applied. -/
def settings (s : Surroundings) (path : Option String) : Except Fault Settings := do
  let base ← match path with
    | some path => Settings.load (s.file path)
    | none => .ok .usual
  base.withEnvironment s.environment

/-- Everything that has to be in place before the first request. -/
def prepare (server : Server σ) (settings : Settings) (names : List String) :
    Except Fault (List (Scenario σ) × Cluster σ) := do
  let scenarios ← Scenario.select names
  let cluster ← Cluster.ofSettings server settings
  return (scenarios, cluster)

/-- The line that announces a run. -/
def announcement (scenarios : List (Scenario σ)) (cluster : Cluster σ) : Utterance :=
  .log .info ("Running " ++ toString scenarios.length ++ " scenario(s) against " ++ cluster.url
    ++ " (version " ++ programVersion ++ ")")

def aborted (fault : Fault) : Utterance :=
  .log .error ("Harness run aborted: " ++ fault.message)

/-- Runs the scenarios of some names. -/
def runNamed (server : Server σ) (settings : Settings) (color : Bool) (names : List String) :
    Run (Net σ) Fault Ending :=
  match prepare server settings names with
  | .error fault => pure ⟨false, [aborted fault]⟩
  | .ok (scenarios, cluster) => do
    let opening := announcement scenarios cluster
    match ← (Scenario.runAll scenarios cluster (.ofSettings settings)).attempt with
    | .error fault => return ⟨false, [opening, aborted fault]⟩
    | .ok reports =>
      return ⟨reports.all Report.passed, [opening, .print (Report.summary color reports)]⟩

/-- A character as a terminal may be shown it: what could begin a command to the terminal is
written out. -/
def harmlessChars (c : Char) : List Char :=
  let code := Nat.toDigits 16 c.toNat
  if c.toNat ∈ [0x07, 0x08, 0x0C, 0x1B, 0x7F] then
    '\\' :: 'x' :: (List.replicate (2 - code.length) '0' ++ code)
  else if 0x80 ≤ c.toNat ∧ c.toNat ≤ 0x9F then '\\' :: 'u' :: '\x7b' :: code ++ ['\x7d']
  else [c]

/-- A line of the log: time, level and text, or the same as an object. -/
def logLine (structured : Bool) (time : String) (level : LogLevel) (text : String) : String :=
  if structured then
    let member (key : String) (value : String) : List Char :=
      Json.memberChars key (Json.stringChars value)
    String.ofList (Json.bracketed '\x7b' '\x7d'
      [member "timestamp" time, member "level" level.label,
        Json.memberChars "fields" (Json.bracketed '\x7b' '\x7d' [member "message" text]),
        member "target" "marathon_harness"])
  else time ++ " " ++ String.ofList (List.replicate (5 - level.label.length) ' ') ++ level.label
    ++ " " ++ String.ofList (text.toList.flatMap harmlessChars)

/-- What the log shows of an event under some settings, with its line end. -/
def logText (settings : Settings) (time : String) (level : LogLevel) (text : String) : String :=
  if settings.logLevel.severity ≤ level.severity then
    logLine settings.jsonLogs time level text ++ "\n"
  else ""

/-- A whole session, and the settings it used, if it came so far. -/
def run (server : Server σ) (s : Surroundings) (color : Bool) (arguments : List String) :
    Run (Net σ) Fault (Option Settings × Ending) :=
  match Request.ofArguments (.parse arguments) with
  | .version => pure (none, ⟨true, [.print (versionText s)]⟩)
  | .list => pure (none, ⟨true, listLines⟩)
  | .run path names =>
    match settings s path with
    | .error fault =>
      pure (none, ⟨false, [.complain ("Unable to load settings: " ++ fault.message)]⟩)
    | .ok settings => do
      let ending ← runNamed server settings color names
      return (some settings, ending)

end Session

end Rollout
