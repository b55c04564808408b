import Rollout.Url.Domain.Direction
import Rollout.Url.Domain.Joining
import Rollout.Url.Domain.Letters
import Rollout.Url.Punycode
/-!
# Domains

The ASCII form of a domain. It is the same for all ways to write a domain, and a label that is
already written in ASCII for other letters has to be the very form that those letters have.
-/

namespace Rollout.Url

/-- Splits at every `c`; there is always at least one part. -/
def splitAt (c : Char) : List Char → List (List Char)
  | [] => [[]]
  | d :: cs =>
    if d = c then [] :: splitAt c cs
    else match splitAt c cs with
      | [] => [[d]]
      | part :: parts => (d :: part) :: parts

namespace Domain

/-- ASCII characters that no domain has. -/
def isForbidden (c : Char) : Bool :=
  c.toNat ≤ 0x20 || c.toNat = 0x7F
    || c ∈ ['%', '#', '/', ':', '<', '>', '?', '@', '[', '\\', ']', '^', '|']

def isAscii (cs : List Char) : Bool := cs.all fun c => c.toNat < 0x80

/-- A label has at most this many letters if one of them is outside ASCII. -/
def maxLetters : Nat := 1000

/-- The ASCII form of a label has at most this many characters behind its mark. -/
def maxEncoded : Nat := 2000

/-- Whether letters can be a label. -/
def isLabel (letters : List Char) : Bool :=
  !letters.head?.any Text.isMark && joinersFit [] letters
    && (isAscii letters || letters.length ≤ maxLetters)

/-- A label by its letters and in ASCII. -/
structure Label where
  letters : List Char
  ascii : List Char
  deriving DecidableEq, Repr

/-- Stands before the ASCII form of letters outside ASCII. -/
def asciiMark : List Char := ['x', 'n', '-', '-']

/-- The letters behind the mark of a label in ASCII form. They must be letters that stand for
themselves. -/
def decodeLabel? (encoded : List Char) : Option (List Char) := do
  if !isAscii encoded || maxEncoded < encoded.length || encoded.getLast?.all (· == '-') then none
  else
    let letters ← Punycode.decode? encoded
    if lettersOf? letters = some letters && letters.all fun c => c ≠ '.' && !isForbidden c then
      some letters
    else none

/-- The label with some letters, which may be those of its ASCII form. -/
def label? (letters : List Char) : Option Label :=
  if asciiMark.isPrefixOf letters then
    match decodeLabel? (letters.drop asciiMark.length) with
    | some decoded => if isLabel decoded then some ⟨decoded, letters⟩ else none
    | none => none
  else if isLabel letters then
    some ⟨letters, if isAscii letters then letters else asciiMark ++ Punycode.encode letters⟩
  else none

/-- The ASCII form of a domain, if the text is one. -/
def ascii? (cs : List Char) : Option (List Char) := do
  let letters ← lettersOf? cs
  if letters.any isForbidden then none
  else
    let labels ← (splitAt '.' letters).mapM label?
    if (labels.any fun l => l.letters.any runsLeft) &&
        !labels.all fun l => runsOneWay l.letters then
      none
    else some (['.'].intercalate (labels.map Label.ascii))

end Domain

end Rollout.Url
