import Rollout.Json.Node
/-!
# Reading JSON texts

From the symbols of a text to its syntax tree. Reading never fails: where the text makes no sense
the tree says so and the rest of the text is left alone. Each function returns the rest as `none`
when the text is broken, and takes a bound on its own depth; a value nests at most twice as deep
as the text is long, since each bracket costs one step for the value and one for its contents.
-/

namespace Rollout.Json

open Text

/-- The symbols of a text that is still to be read; `none` once it is broken. -/
abbrev Rest := Option (List Symbol)

def isSpace : Symbol → Bool
  | .char ' ' | .char '\n' | .char '\t' | .char '\r' => true
  | _ => false

def skipSpace (s : List Symbol) : List Symbol := s.dropWhile isSpace

def hexValue? : Symbol → Option Nat
  | .stray _ => none
  | .char c =>
    if '0' ≤ c ∧ c ≤ '9' then some (c.toNat - 48)
    else if 'a' ≤ c ∧ c ≤ 'f' then some (c.toNat - 87)
    else if 'A' ≤ c ∧ c ≤ 'F' then some (c.toNat - 55)
    else none

/-- What stands after `\u`. -/
inductive HexEscape where
  | cut
  | bad
  | unit (n : UInt16) (rest : List Symbol)

def hexEscape (s : List Symbol) : HexEscape :=
  match s with
  | a :: b :: c :: d :: rest =>
    match hexValue? a, hexValue? b, hexValue? c, hexValue? d with
    | some a, some b, some c, some d =>
      .unit (UInt16.ofNat (((a * 16 + b) * 16 + c) * 16 + d)) rest
    | _, _, _, _ => .bad
  | s => if s.foldl (fun n a => n + a.size) 0 < 4 then .cut else .bad

/-- The character that a backslash and the given character stand for. -/
def shortEscape? : Char → Option Char
  | '"' => some '"'
  | '\\' => some '\\'
  | '/' => some '/'
  | 'b' => some '\x08'
  | 'f' => some '\x0c'
  | 'n' => some '\n'
  | 'r' => some '\r'
  | 't' => some '\t'
  | _ => none

/-- Reads a string literal after its opening quote. -/
def readString : Nat → List Symbol → Literal × Rest
  | 0, _ => (⟨[], .cut⟩, none)
  | _ + 1, [] => (⟨[], .cut⟩, none)
  | _ + 1, .char '"' :: rest => (⟨[], .closed⟩, some rest)
  | _ + 1, .char '\\' :: [] => (⟨[], .cut⟩, none)
  | n + 1, .char '\\' :: .char 'u' :: rest =>
    match hexEscape rest with
    | .cut => (⟨[], .cut⟩, none)
    | .bad => (⟨[], .badHex⟩, none)
    | .unit u rest =>
      let (s, rest) := readString n rest
      (⟨.unit u :: s.pieces, s.ending⟩, rest)
  | _ + 1, .char '\\' :: .stray _ :: _ => (⟨[], .badEscape⟩, none)
  | n + 1, .char '\\' :: .char c :: rest =>
    match shortEscape? c with
    | none => (⟨[], .badEscape⟩, none)
    | some e =>
      let (s, rest) := readString n rest
      (⟨.escape e :: s.pieces, s.ending⟩, rest)
  | n + 1, sym :: rest =>
    match sym with
    | .char c =>
      if c.toNat < 0x20 then (⟨[], .control⟩, none)
      else
        let (s, rest) := readString n rest
        (⟨.plain (.char c) :: s.pieces, s.ending⟩, rest)
    | .stray b =>
      let (s, rest) := readString n rest
      (⟨.plain (.stray b) :: s.pieces, s.ending⟩, rest)

/-- The digits at the head of a text. -/
def takeDigits : List Symbol → List Char × List Symbol
  | .char c :: rest =>
    if c.isDigit then
      let (ds, rest) := takeDigits rest
      (c :: ds, rest)
    else ([], .char c :: rest)
  | s => ([], s)

/-- A number is cut where the text ends, and bad where something else stands than a digit. -/
def numberFlaw : List Symbol → Flaw
  | [] => .numberCut
  | _ :: _ => .numberBad

/-- Reads the exponent of a number, if there is one. -/
def readExponent (n : Numeral) : List Symbol → Node × Rest
  | .char c :: rest =>
    if c = 'e' ∨ c = 'E' then
      let (negative, rest) := match rest with
        | .char '+' :: rest => (false, rest)
        | .char '-' :: rest => (true, rest)
        | rest => (false, rest)
      let (digits, rest) := takeDigits rest
      if digits.isEmpty then (.broken (numberFlaw rest), none)
      else (.number { n with exponent := some (negative, digits) }, some rest)
    else (.number n, some (.char c :: rest))
  | rest => (.number n, some rest)

/-- Reads the fraction of a number, if there is one, and what follows. -/
def readFraction (n : Numeral) : List Symbol → Node × Rest
  | .char '.' :: rest =>
    let (digits, rest) := takeDigits rest
    if digits.isEmpty then (.broken (numberFlaw rest), none)
    else readExponent { n with fraction := some digits } rest
  | rest => readExponent n rest

/-- Reads a number after its sign. -/
def readNumber (negative : Bool) (s : List Symbol) : Node × Rest :=
  match takeDigits s with
  | ([], rest) => (.broken (numberFlaw rest), none)
  | ('0' :: _ :: _, _) => (.broken .numberBad, none)
  | (whole, rest) => readFraction ⟨negative, whole, none, none⟩ rest

/-- Reads the rest of a word whose first character has been seen. -/
def readWord (value : Node) : List Char → List Symbol → Node × Rest
  | [], rest => (value, some rest)
  | _ :: _, [] => (.broken .wordCut, none)
  | c :: word, s :: rest =>
    if s = .char c then readWord value word rest else (.broken .wordBad, none)

mutual

/-- Reads a value. -/
def readValue : Nat → List Symbol → Node × Rest
  | 0, _ => (.broken .nothing, none)
  | n + 1, s =>
    match skipSpace s with
    | [] => (.broken .nothing, none)
    | .stray _ :: _ => (.broken .noValue, none)
    | .char c :: rest =>
      if c = 'n' then readWord .null ['u', 'l', 'l'] rest
      else if c = 't' then readWord (.bool true) ['r', 'u', 'e'] rest
      else if c = 'f' then readWord (.bool false) ['a', 'l', 's', 'e'] rest
      else if c = '-' then readNumber true rest
      else if c.isDigit then readNumber false (.char c :: rest)
      else if c = '"' then
        let (text, rest) := readString (rest.length + 1) rest
        (.string text, rest)
      else if c = '[' then
        match skipSpace rest with
        | [] => (.array [] .cut, none)
        | .char ']' :: rest => (.array [] .closed, some rest)
        | rest =>
          let (items, ending, rest) := readItems n rest
          (.array items ending, rest)
      else if c = '\x7b' then
        match skipSpace rest with
        | [] => (.object [] .cut, none)
        | .char '\x7d' :: rest => (.object [] .closed, some rest)
        | rest =>
          let (members, ending, rest) := readMembers n rest
          (.object members ending, rest)
      else (.broken .noValue, none)

/-- Reads the values of a list, at least one, up to its bracket. -/
def readItems : Nat → List Symbol → List Node × Ending × Rest
  | 0, _ => ([], .cut, none)
  | n + 1, s =>
    match readValue n s with
    | (item, none) => ([item], .cut, none)
    | (item, some rest) =>
      match skipSpace rest with
      | [] => ([item], .cut, none)
      | .char ']' :: rest => ([item], .closed, some rest)
      | .char ',' :: rest =>
        match skipSpace rest with
        | [] => ([item], .commaCut, none)
        | .char ']' :: _ => ([item], .commaClosed, none)
        | rest =>
          let (items, ending, rest) := readItems n rest
          (item :: items, ending, rest)
      | _ => ([item], .stray, none)

/-- Reads the members of an object, up to its bracket. -/
def readMembers : Nat → List Symbol → List (Literal × Node) × Ending × Rest
  | 0, _ => ([], .cut, none)
  | n + 1, .char '"' :: rest =>
    match readString (rest.length + 1) rest with
    | (key, none) => ([(key, .broken .colonCut)], .cut, none)
    | (key, some rest) =>
      match skipSpace rest with
      | [] => ([(key, .broken .colonCut)], .cut, none)
      | .char ':' :: rest =>
        match readValue n rest with
        | (value, none) => ([(key, value)], .cut, none)
        | (value, some rest) =>
          match skipSpace rest with
          | [] => ([(key, value)], .cut, none)
          | .char '\x7d' :: rest => ([(key, value)], .closed, some rest)
          | .char ',' :: rest =>
            match skipSpace rest with
            | [] => ([(key, value)], .commaCut, none)
            | .char '\x7d' :: _ => ([(key, value)], .commaClosed, none)
            | rest =>
              let (members, ending, rest) := readMembers n rest
              ((key, value) :: members, ending, rest)
          | _ => ([(key, value)], .stray, none)
      | _ => ([(key, .broken .colonMissing)], .cut, none)
  | _ + 1, _ => ([], .badKey, none)

end

/-- A whole text: its tree, and whether something other than blanks follows the value. -/
structure Document where
  root : Node
  trailing : Bool

def Document.ofSymbols (s : List Symbol) : Document :=
  let (root, rest) := readValue (2 * s.length + 2) s
  ⟨root, match rest with
    | none => false
    | some rest => !(skipSpace rest).isEmpty⟩

/-- Reads a text. -/
def Document.ofString (s : String) : Document := .ofSymbols (Symbol.ofString s)

/-- Reads bytes that should spell a text. -/
def Document.ofBytes (bytes : List UInt8) : Document := .ofSymbols (symbols bytes)

end Rollout.Json
