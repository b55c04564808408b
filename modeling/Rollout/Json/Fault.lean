import Rollout.Decimal.Shortest
import Rollout.Text.Quoted
/-!
# JSON faults

Everything that can be wrong with a JSON text: it may break off, be malformed, or be well formed
and not fit the type that is read from it. Each fault has a category and a message.
-/

namespace Rollout.Json

open Decimal

/-- Numbers as JSON texts carry them: naturals and negative integers that fit into sixty-four
bits, and doubles for everything else. -/
inductive Number where
  | natural (n : UInt64)
  | negative (n : Int64)
  | real (x : Double)
  deriving DecidableEq, Repr

def Number.text : Number → List Char
  | .natural n => (toString n).toList
  | .negative n => (toString n).toList
  | .real x => x.chars

/-- Places at which a text may break off. -/
inductive Break where
  | value
  | list
  | object
  | string
  deriving DecidableEq, Repr

inductive SyntaxFault where
  | eof (place : Break)
  | expectedValue
  | expectedIdent
  | expectedColon
  | expectedListCommaOrEnd
  | expectedObjectCommaOrEnd
  | keyMustBeString
  | trailingComma
  | trailingCharacters
  | invalidNumber
  | numberOutOfRange
  | invalidEscape
  | unexpectedEndOfHexEscape
  | loneSurrogate
  | invalidUnicode
  | controlCharacter
  | recursionLimit
  deriving DecidableEq, Repr

/-- What was found where something else was wanted. -/
inductive Found where
  | null
  | bool (b : Bool)
  | number (n : Number)
  | string (s : String)
  | sequence
  | map
  deriving DecidableEq, Repr

inductive DataFault where
  | invalidType (found : Found) (wanted : String)
  | invalidValue (found : Found) (wanted : String)
  | invalidLength (n : Nat) (wanted : String)
  | unknownVariant (name : String) (known : List String)
  | missingField (name : String)
  | duplicateField (name : String)
  deriving DecidableEq, Repr

inductive Fault where
  | malformed (fault : SyntaxFault)
  | mismatch (fault : DataFault)
  deriving DecidableEq, Repr

inductive Category where
  | malformed
  | eof
  | data
  deriving DecidableEq, Repr

def Break.text : Break → String
  | .value => "a value"
  | .list => "a list"
  | .object => "an object"
  | .string => "a string"

def SyntaxFault.message : SyntaxFault → String
  | .eof place => "EOF while parsing " ++ place.text
  | .expectedValue => "expected value"
  | .expectedIdent => "expected ident"
  | .expectedColon => "expected `:`"
  | .expectedListCommaOrEnd => "expected `,` or `]`"
  | .expectedObjectCommaOrEnd => "expected `,` or `\x7d`"
  | .keyMustBeString => "key must be a string"
  | .trailingComma => "trailing comma"
  | .trailingCharacters => "trailing characters"
  | .invalidNumber => "invalid number"
  | .numberOutOfRange => "number out of range"
  | .invalidEscape => "invalid escape"
  | .unexpectedEndOfHexEscape => "unexpected end of hex escape"
  | .loneSurrogate => "lone leading surrogate in hex escape"
  | .invalidUnicode => "invalid unicode code point"
  | .controlCharacter => "control character (\\u0000-\\u001F) found while parsing a string"
  | .recursionLimit => "recursion limit exceeded"

def Found.text : Found → String
  | .null => "null"
  | .bool b => "boolean `" ++ toString b ++ "`"
  | .number (.real x) => "floating point `" ++ String.ofList x.chars ++ "`"
  | .number n => "integer `" ++ String.ofList n.text ++ "`"
  | .string s => "string " ++ Text.quoted s
  | .sequence => "sequence"
  | .map => "map"

/-- Names between backquotes, separated by commas. -/
def nameList (names : List String) : String :=
  ", ".intercalate (names.map fun n => "`" ++ n ++ "`")

def DataFault.message : DataFault → String
  | .invalidType found wanted => "invalid type: " ++ found.text ++ ", expected " ++ wanted
  | .invalidValue found wanted => "invalid value: " ++ found.text ++ ", expected " ++ wanted
  | .invalidLength n wanted => "invalid length " ++ toString n ++ ", expected " ++ wanted
  | .unknownVariant name known =>
    "unknown variant `" ++ name ++ "`, expected one of " ++ nameList known
  | .missingField name => "missing field `" ++ name ++ "`"
  | .duplicateField name => "duplicate field `" ++ name ++ "`"

def Fault.message : Fault → String
  | .malformed f => f.message
  | .mismatch f => f.message

def Fault.category : Fault → Category
  | .malformed (.eof _) => .eof
  | .malformed _ => .malformed
  | .mismatch _ => .data

end Rollout.Json
