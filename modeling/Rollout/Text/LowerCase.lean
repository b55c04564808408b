import Rollout.Text.CaseTable
/-!
# Lower case

Lower case of a whole text. A capital sigma at the end of a word becomes the final form; the
dotted capital I becomes two characters; every other character maps to one character.
-/

namespace Rollout.Text

def isCaseIgnorable (c : Char) : Bool :=
  if c.toNat < 0x80 then c ∈ ['\'', '.', ':', '^', '\x60']
  else inRanges caseIgnorableRanges c.toNat

def isCased (c : Char) : Bool :=
  if c.toNat < 0x80 then c.isAlpha else inRanges casedRanges c.toNat

/-- Whether the first character that case rules do not look through has case. -/
def meetsCased (cs : List Char) : Bool :=
  match cs.dropWhile isCaseIgnorable with
  | [] => false
  | c :: _ => isCased c

/-- The lower-case form of a character on its own. -/
def lowerChar (c : Char) : Char :=
  if c.toNat < 0x80 then c.toLower
  else match image? lowerRuns c.toNat with
    | some n => .ofNat n
    | none => c

/-- Lower case of the rest of a text, given the characters before it, nearest first. -/
def lowerAfter : List Char → List Char → List Char
  | _, [] => []
  | before, c :: after =>
    let here :=
      if c = 'Σ' then
        [if meetsCased before && !meetsCased after then 'ς' else 'σ']
      else if c = 'İ' then ['i', '\u0307']
      else [lowerChar c]
    here ++ lowerAfter (c :: before) after

def lower (s : String) : String :=
  String.ofList (lowerAfter [] s.toList)

end Rollout.Text
