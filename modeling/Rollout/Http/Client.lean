import Rollout.Http.Base64
import Rollout.Http.Exchange
import Rollout.Json.Wire
import Rollout.Time.Span
import Rollout.Url.Parse
import Rollout.Fault
import Rollout.Wire.Platform
/-!
# Clients

Requests to a server below some URL, one at a time, each within a limited time. An answer that is
not a success becomes a fault; its text is the message of its body if it has one.
-/

namespace Rollout.Http

open Time

structure Client (σ : Type) where
  server : Server σ
  base : Url
  token : Option String
  /-- Time for one request, from connecting to the end of the body. -/
  limit : Span

/-- Whether a character may stand in a header. -/
def isHeaderChar (c : Char) : Bool := c == '\t' || (0x20 ≤ c.toNat && c.toNat ≠ 0x7F)

/-- A fault for a token that no header can carry. -/
def checkToken (token : Option String) : Except Fault Unit :=
  if (token.getD "").toList.all isHeaderChar then .ok ()
  else .error (.config "Invalid auth token: failed to parse header value")

/-- A head of an answer, and what is left of the time for the request. -/
structure Response where
  status : Status
  body : List UInt8
  ending : BodyEnd
  left : Nat

/-- The fault of an answer that is not a success. -/
def statusFault (status : Status) (body : String) : Fault :=
  let text := match (Json.decode body : Except Json.Fault Wire.ErrorBody) with
    | .ok e => e.message
    | .error _ => body
  if status = 404 then .notFound text else .unexpectedStatus status text

/-- User name and password of a URL, if it has any that can be read. -/
def credentials? (u : Url) : Option (String × Option String) := do
  let a ← u.authority
  let username ← Url.decoded? a.username
  let password := a.password.bind Url.decoded?
  if username.isEmpty && password.isNone then none else some (username, password)

def basicHeader (username : String) (password : Option String) : String :=
  "Basic " ++ base64 (Text.toBytes (username ++ ":" ++ password.getD ""))

/-- Whether a request line can name a host. -/
def isSendableHost : Url.Host → Bool
  | .domain name => name.toList.all fun c => c ∉ ['"', '\x60', '\x7b', '\x7d']
  | .ipv4 _ | .ipv6 _ => true

/-- Whether a request can be made of a URL. -/
def isSendable (u : Url) : Bool :=
  (u.scheme = "http" || u.scheme = "https") && u.text.utf8ByteSize < 65535
    && u.authority.any fun a => isSendableHost a.host

namespace Client

variable {σ : Type}

/-- The same client below another URL. -/
def rebased (c : Client σ) (base : Url) : Client σ := { c with base }

/-- A path below the base; leading slashes do not count. -/
def url (c : Client σ) (path : String) : Except Fault Url :=
  match c.base.join (Text.trimStart '/' path) with
  | .ok u => .ok u
  | .error fault => .error (.url fault)

/-- The request for a URL. User name and password leave the URL and become the authorization; the
token is the authorization of all other requests. -/
def request (c : Client σ) (method : Method) (u : Url) (body : Option String) : Request :=
  match credentials? u with
  | some (username, password) =>
    ⟨method, u.withoutCredentials, some (basicHeader username password), body⟩
  | none => ⟨method, u, c.token.map ("token=" ++ ·), body⟩

/-- Hands a request to the HTTP library and waits for the head of the answer that it comes back
with. Without any time nothing is sent. -/
def transmit (c : Client σ) (r : Request) : Run (Net σ) Fault Response := fun clock now net =>
  let limit := clock.lasting c.limit.nanos
  if c.limit.isZero then ⟨.failed (.transfer (.unanswered r.url.text)), net, 0⟩
  else
    let (reply, server) := c.server now r net.server
    let net : Net σ := ⟨server, net.sent ++ [⟨now, r⟩]⟩
    if limit ≤ reply.delay then ⟨.failed (.transfer (.unanswered r.url.text)), net, limit⟩
    else
      match reply.answer with
      | .refused => ⟨.failed (.transfer (.refused r.url.text)), net, reply.delay⟩
      | .dropped => ⟨.failed (.transfer (.dropped r.url.text)), net, reply.delay⟩
      | .silence => ⟨.failed (.transfer (.unanswered r.url.text)), net, limit⟩
      | .response status body ending =>
        ⟨.done ⟨status, body, ending, limit - reply.delay⟩, net, reply.delay⟩

def send (c : Client σ) (method : Method) (u : Url) (body : Option String := none) :
    Run (Net σ) Fault Response :=
  let r := c.request method u body
  if isSendable r.url then c.transmit r else .fail (.transfer (.unsendable r.url.text))

/-- The body as a text; what cannot be read counts as empty. -/
def readText (r : Response) : Run (Net σ) Fault String :=
  match r.ending with
  | .complete => pure (Text.lossy r.body)
  | .truncated => pure ""
  | .stalled => do
    .sleep r.left
    return ""

/-- Fails with the fault of an answer that is not a success. -/
def requireSuccess (r : Response) : Run (Net σ) Fault Unit := do
  if isSuccess r.status then return ()
  else
    let body ← readText r
    .fail (statusFault r.status body)

/-- The value in the body of a success. -/
def readValue {α : Type} [Json.Wire α] (r : Response) : Run (Net σ) Fault α := do
  requireSuccess r
  match r.ending with
  | .complete =>
    match Json.decodeBytes r.body with
    | .ok a => return a
    | .error _ => .fail (.transfer .undecodable)
  | .truncated => .fail (.transfer .undecodable)
  | .stalled =>
    .sleep r.left
    .fail (.transfer .unfinished)

def get {α : Type} [Json.Wire α] (c : Client σ) (path : String) : Run (Net σ) Fault α := do
  let u ← .ofExcept (c.url path)
  readValue (← c.send .get u)

def post {α β : Type} [Json.Wire α] [Json.Wire β] (c : Client σ) (path : String) (body : β) :
    Run (Net σ) Fault α := do
  let u ← .ofExcept (c.url path)
  readValue (← c.send .post u (some (Json.encode body)))

/-- Deletes what a path names, with a parameter `force`. -/
def delete {α : Type} [Json.Wire α] (c : Client σ) (path : String) (force : Bool) :
    Run (Net σ) Fault α := do
  let u ← .ofExcept (c.url path)
  readValue (← c.send .delete (u.withParameter "force" (toString force)))

/-- Deletes where only the status of the answer counts. -/
def deleteOnly (c : Client σ) (path : String) (force : Bool) : Run (Net σ) Fault Unit := do
  let u ← .ofExcept (c.url path)
  requireSuccess (← c.send .delete (u.withParameter "force" (toString force)))

/-- The status of a path, whatever it is. -/
def probe (c : Client σ) (path : String) : Run (Net σ) Fault Status := do
  let u ← .ofExcept (c.url path)
  return (← c.send .get u).status

end Client

end Rollout.Http
