import Rollout.Json.Dict
import Rollout.Json.Node
/-!
# JSON values

Values without a fixed type: what is read from a tree when its members are kept as they come, and
the form in which keys are sorted and only the last of repeated keys remains. Also their text.
-/

namespace Rollout.Json

open Decimal Text

inductive Value where
  | null
  | bool (b : Bool)
  | number (n : Number)
  | string (s : String)
  | array (items : List Value)
  | object (members : List (String × Value))
  deriving Repr, Inhabited

/-- The longest prefix of digits whose number fits into sixty-four bits, and how many digits come
after it. -/
def fitDigits : Nat → List Char → Nat × Nat
  | acc, [] => (acc, 0)
  | acc, c :: cs =>
    let next := acc * 10 + (c.toNat - 48)
    if next < UInt64.size then fitDigits next cs else (acc, cs.length + 1)

def digitsValue (cs : List Char) : Nat :=
  cs.foldl (fun n c => n * 10 + (c.toNat - 48)) 0

/-- The double of a numeral. Digits past the first that no longer fits into sixty-four bits count
as zeros; in a fraction they are dropped. -/
def Numeral.real (n : Numeral) : Except SyntaxFault Number :=
  let (whole, dropped) := fitDigits 0 n.whole
  let fraction := n.fraction.getD []
  let (digits, cut) := fitDigits whole fraction
  let shift : Int := dropped - (fraction.length - cut : Nat)
  let exponent : Int := match n.exponent with
    | none => 0
    | some (negative, ds) => if negative then -(digitsValue ds : Int) else digitsValue ds
  match Double.ofScaled digits (shift + exponent) with
  | none => .error .numberOutOfRange
  | some x => .ok (.real (if n.negative then x.neg else x))

/-- The number of a numeral. Without a fraction and an exponent it is an integer if it fits into
sixty-four bits, except that a negative zero is a double. -/
def Numeral.value (n : Numeral) : Except SyntaxFault Number :=
  match n.fraction, n.exponent, fitDigits 0 n.whole with
  | none, none, (whole, 0) =>
    if n.negative then
      if 0 < whole ∧ whole ≤ UInt64.size / 2 then .ok (.negative (Int64.ofInt (-(whole : Int))))
      else .ok (.real (Double.ofNat whole).neg)
    else .ok (.natural (UInt64.ofNat whole))
  | _, _, _ => n.real

/-- Values nest at most this deep, less one. -/
def depthLimit : Nat := 128

/-- The depth left inside a list or an object, if they may be entered. -/
def enter (depth : Nat) : Except Fault Nat :=
  if depth ≤ 1 then .error (.malformed .recursionLimit) else .ok (depth - 1)

/-- Fails with a syntax fault, if there is one. -/
def reject : Option SyntaxFault → Except Fault Unit
  | none => .ok ()
  | some fault => .error (.malformed fault)

def orMalformed {α : Type} : Except SyntaxFault α → Except Fault α
  | .ok a => .ok a
  | .error fault => .error (.malformed fault)

mutual

/-- The first flaw of a value that is skipped. -/
def Node.skipped : Node → Option SyntaxFault
  | .null | .bool _ | .number _ => none
  | .string s => s.ending.fault
  | .array items ending => skippedItems items <|> ending.skippedInArray
  | .object members ending => skippedMembers members <|> ending.skippedInObject
  | .broken flaw => some flaw.skipped

def skippedItems : List Node → Option SyntaxFault
  | [] => none
  | item :: items => item.skipped <|> skippedItems items

def skippedMembers : List (Literal × Node) → Option SyntaxFault
  | [] => none
  | (key, value) :: members => key.ending.fault <|> value.skipped <|> skippedMembers members

end

mutual

/-- The value of a tree, members in order and repeated keys included. -/
def Node.keep (depth : Nat) : Node → Except Fault Value
  | .null => .ok .null
  | .bool b => .ok (.bool b)
  | .number n => .number <$> orMalformed n.value
  | .string s => .string <$> orMalformed s.text
  | .array items ending => do
    let depth ← enter depth
    let items ← keepItems depth items
    reject ending.keptInArray
    return .array items
  | .object members ending => do
    let depth ← enter depth
    let members ← keepMembers depth members
    reject ending.keptInObject
    return .object members
  | .broken flaw => .error (.malformed flaw.kept)

def keepItems (depth : Nat) : List Node → Except Fault (List Value)
  | [] => .ok []
  | item :: items => do
    let item ← item.keep depth
    let items ← keepItems depth items
    return item :: items

def keepMembers (depth : Nat) : List (Literal × Node) → Except Fault (List (String × Value))
  | [] => .ok []
  | (key, value) :: members => do
    let key ← orMalformed key.text
    let value ← value.keep depth
    let members ← keepMembers depth members
    return (key, value) :: members

end

mutual

/-- The value with the members of every object in key order, the last of repeated keys kept. -/
def Value.sorted : Value → Value
  | .array items => .array (sortedItems items)
  | .object members => .object (sortedMembers members).entries
  | v => v

def sortedItems : List Value → List Value
  | [] => []
  | item :: items => item.sorted :: sortedItems items

/-- An earlier member gives way to a later one with its key. -/
def sortedMembers : List (String × Value) → Dict Value
  | [] => .empty
  | (key, value) :: members =>
    let rest := sortedMembers members
    if (rest.get? key).isSome then rest else rest.insert key value.sorted

end

def escapedChar (c : Char) : List Char :=
  match c with
  | '"' => ['\\', '"']
  | '\\' => ['\\', '\\']
  | '\x08' => ['\\', 'b']
  | '\x0c' => ['\\', 'f']
  | '\n' => ['\\', 'n']
  | '\r' => ['\\', 'r']
  | '\t' => ['\\', 't']
  | c =>
    if c.toNat < 0x20 then
      ['\\', 'u', '0', '0', Nat.digitChar (c.toNat / 16), Nat.digitChar (c.toNat % 16)]
    else [c]

/-- The literal of a text. -/
def stringChars (s : String) : List Char :=
  '"' :: s.toList.flatMap escapedChar ++ ['"']

/-- Parts between brackets, separated by commas. -/
def bracketed (opening closing : Char) (parts : List (List Char)) : List Char :=
  opening :: [','].intercalate parts ++ [closing]

def memberChars (key : String) (value : List Char) : List Char :=
  stringChars key ++ ':' :: value

mutual

/-- The compact text of a value. -/
def Value.chars : Value → List Char
  | .null => ['n', 'u', 'l', 'l']
  | .bool true => ['t', 'r', 'u', 'e']
  | .bool false => ['f', 'a', 'l', 's', 'e']
  | .number n => n.text
  | .string s => stringChars s
  | .array items => bracketed '[' ']' (itemChars items)
  | .object members => bracketed '\x7b' '\x7d' (objectChars members)

def itemChars : List Value → List (List Char)
  | [] => []
  | item :: items => item.chars :: itemChars items

def objectChars : List (String × Value) → List (List Char)
  | [] => []
  | (key, value) :: members => memberChars key value.chars :: objectChars members

end

def Value.text (v : Value) : String := String.ofList v.chars

end Rollout.Json
