import Rollout.Url.Host
import Rollout.Url.Parts
/-!
# Authorities

Name, password, host and port at the head of a text.
-/

namespace Rollout.Url

/-- Name and password before the last `@`. A password is there only if a character follows the
first colon. -/
def readCredentials (cs : List Char) : String × Option String :=
  let name := cs.takeWhile (· != ':')
  let password := (cs.drop name.length).drop 1
  (String.ofList (encodeChars userinfoSet name),
    if password.isEmpty then none else some (String.ofList (encodeChars userinfoSet password)))

/-- The host ends at a colon outside brackets. -/
def hostPart : Bool → List Char → List Char × List Char
  | _, [] => ([], [])
  | inside, c :: cs =>
    if c = ':' ∧ ¬inside then ([], c :: cs)
    else
      let inside := if c = '[' then true else if c = ']' then false else inside
      let (host, rest) := hostPart inside cs
      (c :: host, rest)

/-- A port and what follows it; a backslash ends it in every scheme. -/
def readPort (scheme : String) (cs : List Char) : Except Fault (Option UInt16 × List Char) :=
  let digits := cs.takeWhile Char.isDigit
  let rest := cs.drop digits.length
  let number := (radixValue 10 digits).getD 0
  if 65535 < number || rest.head?.any (· != '\\') then .error .invalidPort
  else
    let port := UInt16.ofNat number
    .ok (if digits.isEmpty || usualPort? scheme = some port then none else some port, rest)

/-- The text before the last `@`, if there is one, and the text after it. -/
def splitLastAt (cs : List Char) : Option (List Char × List Char) :=
  let after := (cs.reverse.takeWhile (· != '@')).reverse
  if after.length = cs.length then none
  else some (cs.take (cs.length - after.length - 1), after)

/-- The authority at the head of a text, and what follows it. `alone` says that nothing follows
the text itself. -/
def readAuthority (scheme : String) (alone : Bool) (cs : List Char) :
    Except Fault (Authority × List Char) := do
  let special := isSpecial scheme
  let whole := cs.takeWhile fun c => !isSlash special c
  let after := cs.drop whole.length
  let (credentials, place) := (splitLastAt whole).getD ([], whole)
  if whole = ['@'] && !(alone && after.isEmpty) then .error .emptyHost
  else
    let (username, password) := readCredentials credentials
    let (hostText, rest) := hostPart false place
    if hostText.isEmpty && (special || !rest.isEmpty) then .error .emptyHost
    else
      let host ← if special then readHost hostText else readOpaqueHost hostText
      let (port, rest) ← readPort scheme (rest.drop 1)
      if hostText.isEmpty && !(username.isEmpty && password.isNone) then .error .emptyHost
      else return (⟨username, password, host, port⟩, rest ++ after)

end Rollout.Url
