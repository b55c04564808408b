import Rollout.Url.File
/-!
# Reading URLs

A text as a URL, on its own or relative to a base.
-/

namespace Rollout.Url

/-- What comes after the two slashes of an authority. -/
def readAfterSlashes (scheme : String) (p : Parts) (cs : List Char) : Except Fault Url := do
  let special := isSpecial scheme
  let (authority, rest) ← readAuthority scheme (p.query.isNone && p.fragment.isNone) cs
  let path := match rest with
    | [] => if special then [""] else []
    | c :: cs =>
      addSegments scheme [] (splitSegments special (if isSlash special c then cs else c :: cs))
  return assemble scheme (some authority) (.segments path) p

/-- A text relative to a base that is no file and has segments. A backslash at its head is a slash
in every scheme. -/
def readRelative (base : Url) (list : List String) (p : Parts) : Except Fault Url :=
  let special := isSpecial base.scheme
  match p.front with
  | [] =>
    let u := { base with fragment := p.fragmentText }
    .ok (if p.query.isNone then u else { u with query := p.queryText special })
  | c :: cs =>
    let slashes := (p.front.takeWhile (isSlash true)).length
    if 2 ≤ slashes then
      readAfterSlashes base.scheme p
        (if ['/', '/'].isPrefixOf p.front then p.front.drop 2 else p.front.drop slashes)
    else
      let path := if slashes = 1 then addSegments base.scheme [] (splitSegments special cs)
        else addSegments base.scheme list.dropLast (splitSegments special (c :: cs))
      .ok (assemble base.scheme base.authority (.segments path) p)

/-- What follows a scheme. -/
def readWithScheme (base : Option Url) (scheme : String) (text : List Char) : Except Fault Url :=
  let p := Parts.of text
  if scheme = "file" then readFile base (.ofFile text)
  else if isSpecial scheme then
    let slashes := (p.front.takeWhile (isSlash true)).length
    match base with
    | some ⟨baseScheme, authority, .segments list, query, fragment⟩ =>
      if baseScheme = scheme ∧ slashes < 2 then
        readRelative ⟨baseScheme, authority, .segments list, query, fragment⟩ list p
      else readAfterSlashes scheme p (p.front.drop slashes)
    | _ => readAfterSlashes scheme p (p.front.drop slashes)
  else
    match p.front with
    | '/' :: '/' :: rest => readAfterSlashes scheme p rest
    | '/' :: rest =>
      .ok (assemble scheme none (.segments (addSegments scheme [] (splitSegments false rest))) p)
    | rest => .ok (assemble scheme none (.whole (String.ofList (encodeChars controlSet rest))) p)

/-- Reads a text, relative to a base if there is one. -/
def readFrom (base : Option Url) (s : String) : Except Fault Url :=
  let text := trimmed s
  match scheme? (withoutBreaks text) with
  | some scheme => readWithScheme base scheme ((text.dropWhile (· != ':')).drop 1)
  | none =>
    match base with
    | none => .error .relativeWithoutBase
    | some base =>
      let p := Parts.of text
      match base.path with
      | .whole _ =>
        if text.head? = some '#' then .ok { base with fragment := p.fragmentText }
        else .error .relativeWithOpaqueBase
      | .segments list =>
        if base.scheme = "file" then readFile (some base) (.ofFile text)
        else readRelative base list p

/-- Reads an absolute URL. -/
def parse (s : String) : Except Fault Url := readFrom none s

/-- Reads a URL relative to this one. -/
def join (base : Url) (s : String) : Except Fault Url := readFrom (some base) s

end Rollout.Url
