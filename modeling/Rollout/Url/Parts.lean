import Rollout.Text.Blank
import Rollout.Url.Basic
import Rollout.Url.Encoding
/-!
# Parts of a URL

The text of a URL cut into its scheme, its query, its fragment, and what stands between. Blanks
around a text do not count, nor do tabs and ends of lines inside it. In schemes that are known a
backslash is a slash.
-/

namespace Rollout.Url

open Text (dropEndWhile)

/-- A text without the blanks around it. -/
def trimmed (s : String) : List Char :=
  let outer : Char → Bool := fun c => c.toNat ≤ 0x20
  dropEndWhile outer (s.toList.dropWhile outer)

/-- A tab or the end of a line. -/
def isBreak (c : Char) : Bool := c == '\t' || c == '\n' || c == '\r'

def withoutBreaks (cs : List Char) : List Char := cs.filter (!isBreak ·)

/-- The scheme in lower case of a text without breaks. -/
def scheme? (cs : List Char) : Option String :=
  let scheme := cs.takeWhile fun c => c.isAlphanum || c == '+' || c == '-' || c == '.'
  match scheme, cs.drop scheme.length with
  | c :: _, ':' :: _ =>
    if c.isAlpha then some (String.ofList (scheme.map Char.toLower)) else none
  | _, _ => none

def isSlash (special : Bool) (c : Char) : Bool := c == '/' || (special && c == '\\')

/-- Whether the authority and the path end here. -/
def endsPath (c : Char) : Bool := c == '?' || c == '#'

/-- What comes before the query and the fragment, and these two. -/
structure Parts where
  front : List Char
  query : Option (List Char)
  fragment : Option (List Char)

def Parts.of (text : List Char) : Parts :=
  let cs := withoutBreaks text
  let beforeFragment := cs.takeWhile (· != '#')
  let fragment := match cs.drop beforeFragment.length with
    | _ :: rest => some rest
    | [] => none
  let front := beforeFragment.takeWhile (· != '?')
  let query := match beforeFragment.drop front.length with
    | _ :: rest => some rest
    | [] => none
  ⟨front, query, fragment⟩

def Parts.queryText (p : Parts) (special : Bool) : Option String :=
  p.query.map fun cs =>
    String.ofList (encodeChars (if special then specialQuerySet else querySet) cs)

def Parts.fragmentText (p : Parts) : Option String :=
  p.fragment.map fun cs => String.ofList (encodeChars fragmentSet cs)

/-- The URL of a scheme, an authority and a path, with query and fragment of the parts. -/
def assemble (scheme : String) (authority : Option Authority) (path : Path) (p : Parts) : Url :=
  ⟨scheme, authority, path, p.queryText (isSpecial scheme), p.fragmentText⟩

end Rollout.Url
