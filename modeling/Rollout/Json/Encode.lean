import Rollout.Json.Shape
/-!
# Encoding

The compact text of a datum of a shape: members in the order of the record, sparse ones left out
when they are empty.
-/

namespace Rollout.Json

open Decimal

def doubleChars (x : Double) : List Char :=
  if x.isFinite then x.chars else ['n', 'u', 'l', 'l']

def labelChars (labels : Dict String) : List Char :=
  bracketed '\x7b' '\x7d' (labels.entries.map fun e => memberChars e.1 (stringChars e.2))

mutual

def Shape.chars : Shape → Datum → List Char
  | .text, d => stringChars d.asText
  | .bool, d => (Value.bool d.asBool).chars
  | .natural _, d => (toString d.asNatural).toList
  | .double, d => doubleChars d.asDouble
  | .optional _, .absent => Value.null.chars
  | .optional shape, d => shape.chars d
  | .list shape, .list items => bracketed '[' ']' (items.map shape.chars)
  | .list _, _ => ['[', ']']
  | .labels, d => labelChars d.asLabels
  | .any, d => d.asValue.chars
  | .variant _, d => stringChars d.asText
  | .record _ row, .record fields => bracketed '\x7b' '\x7d' (row.parts fields)
  | .record _ _, _ => ['\x7b', '\x7d']
  | .flattened _ _ innerRow row, .record (.record fields :: own) =>
    bracketed '\x7b' '\x7d' (innerRow.parts fields ++ row.parts own)
  | .flattened _ _ _ _, _ => ['\x7b', '\x7d']

/-- The members of a record that are written. -/
def Row.parts : Row → List Datum → List (List Char)
  | .cons name shape _ sparse row, d :: fields =>
    if sparse && d.isEmpty then row.parts fields
    else memberChars name (shape.chars d) :: row.parts fields
  | _, _ => []

end

/-- The text of a datum of a shape. -/
def Shape.encode (shape : Shape) (d : Datum) : String := String.ofList (shape.chars d)

end Rollout.Json
