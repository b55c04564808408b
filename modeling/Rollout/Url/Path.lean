import Rollout.Url.Domain
import Rollout.Url.Parts
/-!
# Paths

The segments of a path, added one after the other. Dots move within the path, but never take a
drive letter away. In the path of a file a break may count (`addWritten`).
-/

namespace Rollout.Url

def isSingleDot (segment : String) : Bool :=
  segment = "." || segment.toLower = "%2e"

def isDoubleDot (segment : String) : Bool :=
  segment = ".." || segment.toLower ∈ [".%2e", "%2e.", "%2e%2e"]

/-- A letter and a colon or a bar. -/
def isDriveLetter (segment : String) : Bool :=
  match segment.toList with
  | [a, b] => a.isAlpha && (b == ':' || b == '|')
  | _ => false

def isNormalDriveLetter (segment : String) : Bool :=
  isDriveLetter segment && segment.toList.getLast? == some ':'

/-- Whether a segment is a drive letter, or goes on with a backslash after one. -/
def leadsWithDrive (segment : String) : Bool :=
  match segment.toList with
  | a :: b :: rest => isDriveLetter (String.ofList [a, b]) && rest.head?.all (· == '\\')
  | _ => false

/-- Adds a segment to a path. Two dots take the last segment away, but never a drive letter. The
last segment of a text leaves an empty one behind when it is a dot segment. -/
def addSegment (scheme : String) (last : Bool) (path : List String) (segment : String) :
    List String :=
  if isDoubleDot segment then
    let path := if path.getLast?.any leadsWithDrive then path else path.dropLast
    if last then path ++ [""] else path
  else if isSingleDot segment then
    if last then path ++ [""] else path
  else if scheme = "file" ∧ path.isEmpty ∧ isDriveLetter segment then
    [String.ofList (segment.toList.take 1 ++ [':'])]
  else path ++ [segment]

/-- The text of a segment in a URL. -/
def segmentText (cs : List Char) : String := String.ofList (encodeChars pathSet (withoutBreaks cs))

/-- Adds a segment as it was written. A break after a drive letter at the head of the path ends
the segment, and what follows it is taken as it is. -/
def addWritten (scheme : String) (last : Bool) (path : List String) (cs : List Char) :
    List String :=
  match path, cs with
  | [], a :: ':' :: '\t' :: rest => [String.ofList [a, ':'], segmentText rest]
  | _, _ => addSegment scheme last path (segmentText cs)

/-- Adds the segments of a text to a path. -/
def addSegments (scheme : String) : List String → List (List Char) → List String
  | path, [] => path
  | path, [segment] => addWritten scheme true path segment
  | path, segment :: rest => addSegments scheme (addWritten scheme false path segment) rest

/-- The segments of a text between its slashes. -/
def splitSegments (special : Bool) (cs : List Char) : List (List Char) :=
  splitAt '/' (if special then cs.map fun c => if c = '\\' then '/' else c else cs)

end Rollout.Url
