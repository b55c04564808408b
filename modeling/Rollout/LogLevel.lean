import Rollout.Fault
import Rollout.Json.Wire
import Rollout.Text.Blank
import Rollout.Text.LowerCase
/-!
# Log levels

How much a run says about itself. A level is read from a text without regard to case and blanks
around it, and from JSON by its exact name.
-/

namespace Rollout

inductive LogLevel where
  | trace
  | debug
  | info
  | warn
  | error
  deriving DecidableEq, Repr, Inhabited

namespace LogLevel

/-- The lower-case name. -/
def filter : LogLevel → String
  | trace => "trace"
  | debug => "debug"
  | info => "info"
  | warn => "warn"
  | error => "error"

/-- The capitalised name. -/
def title : LogLevel → String
  | trace => "Trace"
  | debug => "Debug"
  | info => "Info"
  | warn => "Warn"
  | error => "Error"

/-- The name in capitals. -/
def label : LogLevel → String
  | trace => "TRACE"
  | debug => "DEBUG"
  | info => "INFO"
  | warn => "WARN"
  | error => "ERROR"

def severity : LogLevel → Nat
  | trace => 0
  | debug => 1
  | info => 2
  | warn => 3
  | error => 4

def named? : String → Option LogLevel
  | "trace" => some trace
  | "debug" => some debug
  | "info" => some info
  | "warn" | "warning" => some warn
  | "error" => some error
  | _ => none

def parse (s : String) : Except Fault LogLevel :=
  let name := Text.lower (Text.trim s)
  match named? name with
  | some level => .ok level
  | none => .error (.config ("Invalid log level: " ++ name))

/-- Known names and the names they stand for. -/
def shape : Json.Shape :=
  .variant [("trace", "trace"), ("debug", "debug"), ("info", "info"), ("warn", "warn"),
    ("warning", "warn"), ("error", "error")]

def toDatum (level : LogLevel) : Json.Datum := .text level.filter

def ofDatum (d : Json.Datum) : LogLevel := (named? d.asText).getD info

instance : Json.Wire LogLevel := ⟨shape, toDatum, ofDatum⟩

end LogLevel

end Rollout
