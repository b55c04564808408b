/-!
# Calendar instants

Points of civil time as seconds since the start of 1970 and nanoseconds, read from and written in
the RFC 3339 form. A leap second is the second before it with a thousand million nanoseconds more.
-/

namespace Rollout.Time

structure Civil where
  secs : Int
  nanos : Nat
  deriving DecidableEq, Repr

/-- Days from the start of 1970 to the given day of the proleptic Gregorian calendar. -/
def daysFromCivil (year : Int) (month day : Nat) : Int :=
  -- years start in March, so that the leap day comes last
  let y := if month ≤ 2 then year - 1 else year
  let era := y.fdiv 400
  let yearOfEra := y - era * 400
  let shifted : Int := (month + 9) % 12
  let dayOfYear := (153 * shifted + 2) / 5 + day - 1
  era * 146097 + (yearOfEra * 365 + yearOfEra / 4 - yearOfEra / 100 + dayOfYear) - 719468

/-- Year, month and day of a number of days since the start of 1970. -/
def civilFromDays (days : Int) : Int × Nat × Nat :=
  let z := days + 719468
  let era := z.fdiv 146097
  let doe := z - era * 146097
  let yoe := (doe - doe / 1460 + doe / 36524 - doe / 146096) / 365
  let doy := doe - (365 * yoe + yoe / 4 - yoe / 100)
  let mp := (5 * doy + 2) / 153
  let day := doy - (153 * mp + 2) / 5 + 1
  let month := if mp < 10 then mp + 3 else mp - 9
  let year := yoe + era * 400 + (if month ≤ 2 then 1 else 0)
  (year, month.toNat, day.toNat)

def isLeapYear (year : Nat) : Bool :=
  year % 4 == 0 && (year % 100 != 0 || year % 400 == 0)

def daysInMonth (year month : Nat) : Nat :=
  if month = 2 then (if isLeapYear year then 29 else 28)
  else if month = 4 ∨ month = 6 ∨ month = 9 ∨ month = 11 then 30
  else 31

private def digitValue? (c : Char) : Option Nat :=
  if c.isDigit then some (c.toNat - 48) else none

/-- Exactly `n` digits. -/
private def digits? : Nat → Nat → List Char → Option (Nat × List Char)
  | 0, acc, cs => some (acc, cs)
  | n + 1, acc, c :: cs => do digits? n (acc * 10 + (← digitValue? c)) cs
  | _ + 1, _, [] => none

private def expect? (c : Char) : List Char → Option (List Char)
  | d :: cs => if d = c then some cs else none
  | [] => none

/-- The fraction after a point: the first nine digits count, the others are dropped. -/
private def fraction? (cs : List Char) : Option (Nat × List Char) :=
  let ds := cs.takeWhile Char.isDigit
  if ds.isEmpty then none
  else
    let kept := ds.take 9
    let value := kept.foldl (fun n c => n * 10 + (c.toNat - 48)) 0
    some (value * Nat.pow 10 (9 - kept.length), cs.dropWhile Char.isDigit)

/-- An offset from universal time in seconds: `Z`, or a sign, hours, a colon and minutes. -/
private def offset? : List Char → Option (Int × List Char)
  | [] => none
  | c :: cs =>
    if c = 'Z' ∨ c = 'z' then some (0, cs)
    else if c = '+' ∨ c = '-' ∨ c = '\u2212' then do
      let (hours, cs) ← digits? 2 0 cs
      let cs ← expect? ':' cs
      let (minutes, cs) ← digits? 2 0 cs
      if 60 ≤ minutes ∨ 24 ≤ hours then none
      else
        let seconds : Int := hours * 3600 + minutes * 60
        some (if c = '+' then seconds else -seconds, cs)
    else none

/-- Reads an RFC 3339 date and time. Date and time may also be separated by a blank. -/
def Civil.parse? (s : String) : Option Civil := do
  let (year, cs) ← digits? 4 0 s.toList
  let cs ← expect? '-' cs
  let (month, cs) ← digits? 2 0 cs
  let cs ← expect? '-' cs
  let (day, cs) ← digits? 2 0 cs
  let cs ← match cs with
    | c :: cs => if c = 'T' ∨ c = 't' ∨ c = ' ' then some cs else none
    | [] => none
  let (hour, cs) ← digits? 2 0 cs
  let cs ← expect? ':' cs
  let (minute, cs) ← digits? 2 0 cs
  let cs ← expect? ':' cs
  let (second, cs) ← digits? 2 0 cs
  let (nanos, cs) ← match cs with
    | '.' :: cs => fraction? cs
    | cs => some (0, cs)
  let (offset, cs) ← offset? cs
  guard cs.isEmpty
  guard (1 ≤ month ∧ month ≤ 12 ∧ 1 ≤ day ∧ day ≤ daysInMonth year month)
  guard (hour ≤ 23 ∧ minute ≤ 59 ∧ second ≤ 60)
  let (second, nanos) := if second = 60 then (59, nanos + 1000000000) else (second, nanos)
  let days := daysFromCivil year month day
  return ⟨days * 86400 + (hour * 3600 + minute * 60 + second : Nat) - offset, nanos⟩

private def padTo (width n : Nat) : String :=
  let ds := Nat.toDigits 10 n
  String.ofList (List.replicate (width - ds.length) '0' ++ ds)

/-- The year with four digits at least; outside of those a sign goes first. -/
private def yearText (year : Int) : String :=
  if 0 ≤ year ∧ year ≤ 9999 then padTo 4 year.toNat
  else (if 0 ≤ year then "+" else "-") ++ padTo 4 year.natAbs

/-- No fraction, or three, six or nine digits of it, the fewest that lose nothing. -/
private def fractionText (nanos : Nat) : String :=
  if nanos = 0 then ""
  else if nanos % 1000000 = 0 then "." ++ padTo 3 (nanos / 1000000)
  else if nanos % 1000 = 0 then "." ++ padTo 6 (nanos / 1000)
  else "." ++ padTo 9 nanos

/-- The RFC 3339 form in universal time. -/
def Civil.text (t : Civil) : String :=
  let days := t.secs.fdiv 86400
  let rest := (t.secs - days * 86400).toNat
  let (year, month, day) := civilFromDays days
  let leap := if 1000000000 ≤ t.nanos then 1 else 0
  let nanos := if 1000000000 ≤ t.nanos then t.nanos - 1000000000 else t.nanos
  yearText year ++ "-" ++ padTo 2 month ++ "-" ++ padTo 2 day ++ "T" ++ padTo 2 (rest / 3600)
    ++ ":" ++ padTo 2 (rest / 60 % 60) ++ ":" ++ padTo 2 (rest % 60 + leap) ++ fractionText nanos
    ++ "Z"

end Rollout.Time
