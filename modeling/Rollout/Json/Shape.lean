import Rollout.Json.Value
/-!
# Shapes

A shape says how values of one type look in JSON: which kinds of value they are made of, which
members a record has, and what stands for a member that is missing. `Datum` is what is read
through a shape and written through it.
-/

namespace Rollout.Json

open Decimal

/-- What a shape describes. -/
inductive Datum where
  | text (s : String)
  | bool (b : Bool)
  | natural (n : UInt64)
  | double (x : Double)
  | absent
  | list (items : List Datum)
  | labels (entries : Dict String)
  | any (v : Value)
  | record (fields : List Datum)
  deriving Inhabited

/-- Widths of natural numbers. -/
inductive Width where
  | w16
  | w32
  | w64
  deriving DecidableEq, Repr

/-- How many numbers there are of a width. -/
def Width.size : Width → Nat
  | .w16 => UInt16.size
  | .w32 => UInt32.size
  | .w64 => UInt64.size

def Width.name : Width → String
  | .w16 => "u16"
  | .w32 => "u32"
  | .w64 => "u64"

mutual

inductive Shape where
  | text
  | bool
  | natural (width : Width)
  | double
  | optional (shape : Shape)
  | list (shape : Shape)
  /-- An object whose members are all texts. -/
  | labels
  /-- Any value. -/
  | any
  /-- One of some names: an alias and the name it stands for. -/
  | variant (names : List (String × String))
  | record (name : String) (row : Row)
  /-- An object that holds the members of another record beside its own. Only its own members are
  read as they come; the others are kept and read afterwards. -/
  | flattened (name : String) (inner : String) (innerRow : Row) (row : Row)

/-- The members of a record. `fallback` stands for a missing member; without it the member is
required. A `sparse` member is not written when it is empty. -/
inductive Row where
  | nil
  | cons (name : String) (shape : Shape) (fallback : Option Datum) (sparse : Bool) (row : Row)

end

namespace Row

def names : Row → List String
  | nil => []
  | cons name _ _ _ row => name :: row.names

def length : Row → Nat
  | nil => 0
  | cons _ _ _ _ row => row.length + 1

/-- The fields of a record from what was found for each: found, or absent, or missing. -/
def finish : Row → List (Option Datum) → Except Fault (List Datum)
  | nil, _ => .ok []
  | cons name _ fallback _ row, slots =>
    match slots.head?.join <|> fallback with
    | none => .error (.mismatch (.missingField name))
    | some d => (d :: ·) <$> row.finish slots.tail

/-- No field found yet. -/
def unfilled (row : Row) : List (Option Datum) := List.replicate row.length none

/-- A record as messages name it when it has the wrong length. -/
def described (row : Row) (name : String) : String :=
  "struct " ++ name ++ " with " ++ toString row.length
    ++ (if row.length = 1 then " element" else " elements")

end Row

/-- How a row may be built up: a required member, and one with a default. -/
def Row.required (name : String) (shape : Shape) (row : Row) : Row :=
  .cons name shape none false row

def Row.default (name : String) (shape : Shape) (fallback : Datum) (row : Row) : Row :=
  .cons name shape (some fallback) false row

def Row.sparse (name : String) (shape : Shape) (fallback : Datum) (row : Row) : Row :=
  .cons name shape (some fallback) true row

/-- An optional member that is left out when there is nothing to write. -/
def Row.maybe (name : String) (shape : Shape) (row : Row) : Row :=
  .cons name (.optional shape) (some .absent) true row

/-- Whether there is nothing to write. -/
def Datum.isEmpty : Datum → Bool
  | .absent => true
  | .list items => items.isEmpty
  | .labels entries => entries.entries.isEmpty
  | _ => false

namespace Datum

/-! Parts of a datum of known shape. -/

def asText : Datum → String
  | text s => s
  | _ => ""

def asBool : Datum → Bool
  | bool b => b
  | _ => false

def asNatural : Datum → UInt64
  | natural n => n
  | _ => 0

def asDouble : Datum → Double
  | double x => x
  | _ => .zero

def asOption {α : Type} (f : Datum → α) : Datum → Option α
  | absent => none
  | d => some (f d)

def asList {α : Type} (f : Datum → α) : Datum → List α
  | list items => items.map f
  | _ => []

def asLabels : Datum → Dict String
  | labels entries => entries
  | _ => .empty

def asValue : Datum → Value
  | any v => v
  | _ => .null

def ofOption {α : Type} (f : α → Datum) : Option α → Datum
  | none => absent
  | some a => f a

def ofList {α : Type} (f : α → Datum) (items : List α) : Datum := list (items.map f)

end Datum

end Rollout.Json
