import Rollout.Json.Fault
import Rollout.Text.Utf8
/-!
# Syntax trees of JSON texts

A text as far as it can be read. A tree may stop anywhere: a literal may be cut short, a list or
an object may end in something other than its bracket. What such a flaw is reported as depends on
whether the value around it is kept or skipped, so the tree records the situation and the two
readings are functions on it.
-/

namespace Rollout.Json

open Text

/-- Part of a string literal. -/
inductive Piece where
  | plain (s : Symbol)
  | escape (c : Char)
  | unit (n : UInt16)
  deriving DecidableEq, Repr

/-- How a string literal ends. -/
inductive StringEnd where
  | closed
  | cut
  /-- A backslash before a character that starts no escape. -/
  | badEscape
  /-- `\u` before four bytes that are not hexadecimal digits. -/
  | badHex
  | control
  deriving DecidableEq, Repr

structure Literal where
  pieces : List Piece
  ending : StringEnd
  deriving DecidableEq, Repr

/-- A number literal: its parts as digit strings. -/
structure Numeral where
  negative : Bool
  whole : List Char
  /-- Digits after the point. -/
  fraction : Option (List Char)
  /-- Sign and digits of the exponent. -/
  exponent : Option (Bool × List Char)
  deriving DecidableEq, Repr

/-- Why no value stands at a place. -/
inductive Flaw where
  | nothing
  | noValue
  | wordCut
  | wordBad
  | numberCut
  | numberBad
  /-- The key before it is followed by the end of the text instead of a colon. -/
  | colonCut
  /-- The key before it is followed by something else than a colon. -/
  | colonMissing
  deriving DecidableEq, Repr

/-- How a list or an object ends. -/
inductive Ending where
  | closed
  | cut
  /-- Neither a comma nor the bracket. -/
  | stray
  /-- A comma and then the bracket. -/
  | commaClosed
  /-- A comma and then the end of the text. -/
  | commaCut
  /-- In an object, something else than a string where a key should stand. -/
  | badKey
  deriving DecidableEq, Repr

inductive Node where
  | null
  | bool (b : Bool)
  | number (n : Numeral)
  | string (s : Literal)
  | array (items : List Node) (ending : Ending)
  | object (members : List (Literal × Node)) (ending : Ending)
  | broken (flaw : Flaw)
  deriving Repr

/-- The report of a flaw in a value that is kept. -/
def Flaw.kept : Flaw → SyntaxFault
  | .nothing | .wordCut | .numberCut => .eof .value
  | .noValue => .expectedValue
  | .wordBad => .expectedIdent
  | .numberBad => .invalidNumber
  | .colonCut => .eof .object
  | .colonMissing => .expectedColon

/-- The report of a flaw in a value that is skipped. -/
def Flaw.skipped : Flaw → SyntaxFault
  | .numberCut => .invalidNumber
  | flaw => flaw.kept

def Ending.keptInArray : Ending → Option SyntaxFault
  | .closed => none
  | .cut => some (.eof .list)
  | .commaClosed => some .trailingComma
  | .commaCut => some (.eof .value)
  | .stray | .badKey => some .expectedListCommaOrEnd

def Ending.keptInObject : Ending → Option SyntaxFault
  | .closed => none
  | .cut => some (.eof .object)
  | .stray => some .expectedObjectCommaOrEnd
  | .commaClosed => some .trailingComma
  | .commaCut => some (.eof .value)
  | .badKey => some .keyMustBeString

def Ending.skippedInArray : Ending → Option SyntaxFault
  | .commaClosed => some .expectedValue
  | ending => ending.keptInArray

def Ending.skippedInObject : Ending → Option SyntaxFault
  | .commaClosed => some .keyMustBeString
  | .commaCut => some (.eof .object)
  | ending => ending.keptInObject

/-- The report when a list is left before its end was looked for. -/
def Ending.left : Ending → Option SyntaxFault
  | .closed => none
  | .cut => some (.eof .list)
  | .commaClosed => some .trailingComma
  | .stray | .commaCut | .badKey => some .trailingCharacters

def StringEnd.fault : StringEnd → Option SyntaxFault
  | .closed => none
  | .cut => some (.eof .string)
  | .badEscape | .badHex => some .invalidEscape
  | .control => some .controlCharacter

/-- What is wrong where the second half of a surrogate pair should stand. -/
def StringEnd.unpaired : StringEnd → SyntaxFault
  | .closed | .badEscape | .control => .unexpectedEndOfHexEscape
  | .cut => .eof .string
  | .badHex => .invalidEscape

def isLeading (n : UInt16) : Bool := 0xD800 ≤ n.toNat && n.toNat ≤ 0xDBFF

def isTrailing (n : UInt16) : Bool := 0xDC00 ≤ n.toNat && n.toNat ≤ 0xDFFF

/-- The character a surrogate pair stands for. -/
def pairedChar (high low : UInt16) : Char :=
  Char.ofNat ((high.toNat - 0xD800) * 1024 + (low.toNat - 0xDC00) + 0x10000)

/-- The symbols a literal stands for. -/
def Literal.symbols (ending : StringEnd) : List Piece → Except SyntaxFault (List Symbol)
  | [] => match ending.fault with
    | some fault => .error fault
    | none => .ok []
  | .plain s :: rest => (s :: ·) <$> Literal.symbols ending rest
  | .escape c :: rest => (.char c :: ·) <$> Literal.symbols ending rest
  | .unit high :: rest =>
    if isTrailing high then .error .loneSurrogate
    else if isLeading high then
      match rest with
      | [] => .error ending.unpaired
      | .unit low :: rest =>
        if isTrailing low then
          (.char (pairedChar high low) :: ·) <$> Literal.symbols ending rest
        else .error .loneSurrogate
      | _ :: _ => .error .unexpectedEndOfHexEscape
    else (.char (Char.ofNat high.toNat) :: ·) <$> Literal.symbols ending rest

/-- The text a literal stands for. -/
def Literal.text (s : Literal) : Except SyntaxFault String := do
  let symbols ← Literal.symbols s.ending s.pieces
  match charsOf? symbols with
  | some cs => .ok (String.ofList cs)
  | none => .error .invalidUnicode

end Rollout.Json
