import Rollout.Url.Host
/-!
# URLs

A URL by its parts, and its text.
-/

namespace Rollout.Url

structure Authority where
  username : String
  password : Option String
  host : Host
  /-- `none` for the usual port of the scheme. -/
  port : Option UInt16
  deriving DecidableEq, Repr

inductive Path where
  /-- Segments after the first slash; the last one is empty when the path ends in a slash. -/
  | segments (list : List String)
  /-- The path of a URL that nothing can be relative to. -/
  | whole (text : String)
  deriving DecidableEq, Repr

end Rollout.Url

namespace Rollout

structure Url where
  scheme : String
  authority : Option Url.Authority
  path : Url.Path
  query : Option String
  fragment : Option String
  deriving DecidableEq, Repr

namespace Url

/-- The port that a scheme uses when none is given. -/
def usualPort? (scheme : String) : Option UInt16 :=
  if scheme = "http" ∨ scheme = "ws" then some 80
  else if scheme = "https" ∨ scheme = "wss" then some 443
  else if scheme = "ftp" then some 21
  else none

def isSpecial (scheme : String) : Bool :=
  scheme = "file" || (usualPort? scheme).isSome

def Authority.credentials (a : Authority) : String :=
  match a.password with
  | some password => a.username ++ ":" ++ password ++ "@"
  | none => if a.username.isEmpty then "" else a.username ++ "@"

/-- Host and port. -/
def Authority.place (a : Authority) : String :=
  a.host.text ++ (match a.port with
    | some port => ":" ++ toString port
    | none => "")

def segmentsText (list : List String) : String :=
  "".intercalate (list.map ("/" ++ ·))

def pathText (u : Url) : String :=
  match u.path with
  | .whole text => text
  | .segments list =>
    -- without an authority a leading empty segment would read as one
    let lead := if u.authority.isNone && list.length > 1 && list.head? == some "" then "/." else ""
    lead ++ segmentsText list

def queryText (u : Url) : String :=
  match u.query with
  | some query => "?" ++ query
  | none => ""

/-- Path and query, as a request line has them. -/
def target (u : Url) : String := u.pathText ++ u.queryText

def text (u : Url) : String :=
  u.scheme ++ ":"
    ++ (match u.authority with
      | some a => "//" ++ a.credentials ++ a.place
      | none => "")
    ++ u.target
    ++ (match u.fragment with
      | some fragment => "#" ++ fragment
      | none => "")

/-- The URL without user name and password. -/
def withoutCredentials (u : Url) : Url :=
  { u with authority := u.authority.map fun a => { a with username := "", password := none } }

/-- Scheme, host and port of a URL. -/
def origin (u : Url) : String × Option Host × Option UInt16 :=
  (u.scheme, u.authority.map (·.host), u.authority.bind (·.port))

/-- Appends a parameter to the query. -/
def withParameter (u : Url) (name value : String) : Url :=
  let parameter := name ++ "=" ++ value
  { u with query := match u.query with
    | none => some parameter
    | some query => some (if query.isEmpty then parameter else query ++ "&" ++ parameter) }

end Url

end Rollout
