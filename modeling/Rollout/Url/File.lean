import Rollout.Url.Authority
import Rollout.Url.Path
/-!
# Files

URLs of files, on their own or relative to another one. They have a host or a drive letter, not
both, and no empty segments at the head of a path.
-/

namespace Rollout.Url

/-- The authority of a file without a host. -/
def noHost : Authority := ⟨"", none, .domain "", none⟩

/-- The host of a file; the local host is none. -/
def readFileHost (cs : List Char) : Except Fault Authority :=
  if cs.isEmpty then .ok noHost
  else do
    let host ← readHost cs
    return if host = .domain "localhost" then noHost else { noHost with host }

def startsWithDrive (cs : List Char) : Bool :=
  match cs with
  | a :: b :: rest => isDriveLetter (String.ofList [a, b]) && rest.head?.all (isSlash true)
  | _ => false

/-- A segment as the path of a file takes it. Breaks do not count, but one after a drive letter
stays when the segment goes on. -/
def withDriveBreak (segment : List Char) : List Char :=
  let afterFirst := ((segment.dropWhile isBreak).drop 1).dropWhile isBreak
  match withoutBreaks segment with
  | a :: ':' :: c :: rest =>
    let cut := a.isAlpha && (afterFirst.drop 1).head?.any isBreak
    [a, ':'] ++ (if cut then ['\t'] else []) ++ c :: rest
  | cs => cs

/-- The parts of the URL of a file. -/
def Parts.ofFile (text : List Char) : Parts :=
  let segments := splitSegments true (text.takeWhile (!endsPath ·))
  { Parts.of text with front := ['/'].intercalate (segments.map withDriveBreak) }

/-- Adds the segments of a text to the path of a file. -/
def fileSegments (path : List String) (cs : List Char) : List String :=
  addSegments "file" path (splitSegments true cs)

/-- The path of a file starts with one slash only. -/
def withoutEmptyLead : List String → List String
  | [] => [""]
  | [segment] => [segment]
  | segment :: next :: rest =>
    if segment.isEmpty then withoutEmptyLead (next :: rest) else segment :: next :: rest

/-- The URL of a file with a path that has been put together. -/
def assembleFile (authority : Authority) (path : List String) (p : Parts) : Url :=
  assemble "file" (some authority) (.segments (withoutEmptyLead path)) p

/-- The path of a text relative to a path without its last segment. A drive letter at the end of
the base is not left out: it becomes the whole path, or the start of the first segment. -/
def relativeSegments (base : List String) (cs : List Char) : List String :=
  let front := base.dropLast
  let last := base.getLast?.getD ""
  if !isNormalDriveLetter last then fileSegments front cs
  else if front.isEmpty then fileSegments [last] cs
  else
    match splitSegments true cs with
    | [] => base
    | first :: rest =>
      let segment := segmentText first
      let path := if isDoubleDot segment then base
        else if isSingleDot segment then (if rest.isEmpty then base ++ [""] else base)
        else front ++ [last ++ segment]
      addSegments "file" path rest

/-- What a file URL that starts with one slash takes over from its base: a leading drive letter,
or else the host. -/
def rootOf (base : Option Url) (cs : List Char) : Authority × List String :=
  if startsWithDrive cs then (noHost, [])
  else
    match base with
    | some ⟨"file", some a, .segments list, _, _⟩ =>
      match list.head?.filter isNormalDriveLetter with
      | some drive => (noHost, [drive])
      | none => (a, [])
    | _ => (noHost, [])

/-- What follows two slashes of a file URL. A host and a drive letter do not go together. -/
def readAfterFileSlashes (p : Parts) (cs : List Char) : Except Fault Url := do
  let hostText := cs.takeWhile fun c => !isSlash true c
  if isDriveLetter (String.ofList hostText) then
    return assembleFile noHost (fileSegments [] cs) p
  else
    let authority ← readFileHost hostText
    let rest := cs.drop hostText.length
    if authority = noHost then
      return assembleFile noHost (fileSegments [] rest) p
    else
      let path := fileSegments [] (rest.drop 1)
      return assembleFile (if path.head?.any isNormalDriveLetter then noHost else authority) path p

/-- What follows the scheme of a file, or a text relative to a file. -/
def readFile (base : Option Url) (p : Parts) : Except Fault Url :=
  let slashes := (p.front.takeWhile (isSlash true)).length
  if 2 ≤ slashes then readAfterFileSlashes p (p.front.drop 2)
  else if slashes = 1 then
    let cs := p.front.drop 1
    let (authority, path) := rootOf base cs
    .ok (assembleFile authority (fileSegments path cs) p)
  else
    match base with
    | some ⟨"file", some authority, .segments list, query, _⟩ =>
      if p.front.isEmpty then
        let u := assemble "file" (some authority) (.segments list) p
        .ok (if p.query.isNone then { u with query } else u)
      else if startsWithDrive p.front then .ok (assembleFile noHost (fileSegments [] p.front) p)
      else .ok (assembleFile authority (relativeSegments list p.front) p)
    | _ => .ok (assembleFile noHost (fileSegments [] p.front) p)

end Rollout.Url
