import Rollout.Run.Basic
import Rollout.Url.Basic
/-!
# Exchanges with a server

Requests, the ways in which a server may answer them, and the record of what was sent. A server is
any function of the instant, the request and its own state: all that lies behind a client, from the
HTTP library on. Redirects are followed there, so an answer is the one that the library hands back.
-/

namespace Rollout.Http

inductive Method where
  | get
  | post
  | delete
  deriving DecidableEq, Repr

def Method.name : Method → String
  | get => "GET"
  | post => "POST"
  | delete => "DELETE"

structure Request where
  method : Method
  /-- Without user name and password. -/
  url : Url
  authorization : Option String
  /-- The JSON text that is sent along. -/
  body : Option String
  deriving DecidableEq, Repr

abbrev Status := UInt16

def isSuccess (status : Status) : Bool := 200 ≤ status.toNat && status.toNat < 300

/-- How much of a body arrives. -/
inductive BodyEnd where
  | complete
  /-- The connection ends before the body does. -/
  | truncated
  /-- The connection stays open, but no more comes. -/
  | stalled
  deriving DecidableEq, Repr

inductive Answer where
  | refused
  | dropped
  | silence
  | response (status : Status) (body : List UInt8) (ending : BodyEnd)
  deriving DecidableEq, Repr

/-- What becomes of a request, after some time. -/
structure Reply where
  delay : Nat
  answer : Answer
  deriving DecidableEq, Repr

/-- A server with its state of type `σ`. -/
abbrev Server (σ : Type) := Nat → Request → σ → Reply × σ

/-- A request that a client made, and the instant at which it was sent. -/
structure Sent where
  time : Nat
  request : Request
  deriving DecidableEq, Repr

/-- A server's state and all that was sent to it, in order. -/
structure Net (σ : Type) where
  server : σ
  sent : List Sent

end Rollout.Http
