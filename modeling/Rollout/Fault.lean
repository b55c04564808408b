import Rollout.Json.Fault
import Rollout.Url.Host
/-!
# Faults

Everything that can go wrong in a run, by cause, and its message. Whether an orchestrator has
rejected a request, lost an app or just failed are different causes, because callers treat them
differently.
-/

namespace Rollout

/-- Why an exchange with a server has failed. -/
inductive TransferFault where
  /-- No request can be made of the URL. -/
  | unsendable (url : String)
  | refused (url : String)
  /-- The connection ended without an answer. -/
  | dropped (url : String)
  /-- No answer came within the time for a request. -/
  | unanswered (url : String)
  /-- The body of the answer is incomplete or does not decode. -/
  | undecodable
  /-- The body of the answer did not arrive within the time for a request. -/
  | unfinished
  deriving DecidableEq, Repr

inductive TransferKind where
  | timeout
  | connect
  | decode
  | other
  deriving DecidableEq, Repr

namespace TransferFault

def kind : TransferFault → TransferKind
  | unsendable _ | dropped _ => .other
  | refused _ => .connect
  | unanswered _ | unfinished => .timeout
  | undecodable => .decode

def message : TransferFault → String
  | unsendable url => "builder error for url (" ++ url ++ ")"
  | refused url | dropped url | unanswered url => "error sending request for url (" ++ url ++ ")"
  | undecodable | unfinished => "error decoding response body"

end TransferFault

inductive Fault where
  | io (text : String)
  | json (fault : Json.Fault)
  | transfer (fault : TransferFault)
  | url (fault : Url.Fault)
  /-- The orchestrator has rejected a request outright. -/
  | submission (status : UInt16) (text : String)
  | unexpectedStatus (status : UInt16) (text : String)
  | notFound (text : String)
  /-- A check of the final state has failed. -/
  | assertion (text : String)
  /-- A wait that has to succeed has run out of time. -/
  | timeout (text : String)
  | config (text : String)
  | internal (text : String)
  deriving DecidableEq, Repr

namespace Fault

def message : Fault → String
  | io text => "IO error: " ++ text
  | json fault => "JSON error: " ++ fault.message
  | transfer fault => "HTTP error: " ++ fault.message
  | url fault => "URL error: " ++ fault.message
  | submission status text => "Submission rejected (" ++ toString status ++ "): " ++ text
  | unexpectedStatus status text => "Unexpected HTTP status " ++ toString status ++ ": " ++ text
  | notFound text => "Not found: " ++ text
  | assertion text => "Assertion failed: " ++ text
  | timeout text => "Timed out: " ++ text
  | config text => "Configuration error: " ++ text
  | internal text => "Internal error: " ++ text

def isNotFound : Fault → Bool
  | notFound _ => true
  | _ => false

def isAssertion : Fault → Bool
  | assertion _ => true
  | _ => false

end Fault

end Rollout
