/-!
# Tables of characters

Tables written as text. Blanks and line ends separate the rows of a table; the numbers of a row
are hexadecimal, with any other sign between them.
-/

namespace Rollout.Text

def hexDigit? (c : Char) : Option Nat :=
  if '0' ≤ c ∧ c ≤ '9' then some (c.toNat - 48)
  else if 'a' ≤ c ∧ c ≤ 'f' then some (c.toNat - 87)
  else if 'A' ≤ c ∧ c ≤ 'F' then some (c.toNat - 55)
  else none

/-- What has been read of a table, all of it last first. -/
structure TableReading where
  rows : List (List Nat)
  row : List Nat
  number : Option Nat

def TableReading.endNumber (r : TableReading) : TableReading :=
  { r with row := r.number.toList ++ r.row, number := none }

def TableReading.endRow (r : TableReading) : TableReading :=
  let r := r.endNumber
  if r.row.isEmpty then r else ⟨r.row.reverse :: r.rows, [], none⟩

def TableReading.read (r : TableReading) (c : Char) : TableReading :=
  match hexDigit? c with
  | some d => { r with number := some (r.number.getD 0 * 16 + d) }
  | none => if c = ' ' ∨ c = '\n' then r.endRow else r.endNumber

/-- The rows of a table. -/
def rows (table : String) : List (List Nat) :=
  (table.toList.foldl TableReading.read ⟨[], [], none⟩).endRow.rows.reverse

/-- A table of ranges, each with its first and last code point. -/
def ranges (table : String) : List (Nat × Nat) :=
  (rows table).filterMap fun row => match row with
    | [first, last] => some (first, last)
    | _ => none

/-- Whether a code point lies in one of the ranges. -/
def inRanges (ranges : List (Nat × Nat)) (n : Nat) : Bool :=
  ranges.any fun r => r.1 ≤ n && n ≤ r.2

/-- What a table of runs makes of a code point. The rows hold the first and the last code point of
a run, the step between two of them, and what becomes of the first; the others follow in step. -/
def image? (runs : List (List Nat)) (n : Nat) : Option Nat :=
  runs.findSome? fun row => match row with
    | [first, last, step, image] =>
      if first ≤ n ∧ n ≤ last ∧ (n - first) % step = 0 then some (image + (n - first))
      else none
    | _ => none

end Rollout.Text
