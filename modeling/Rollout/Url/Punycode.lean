/-!
# Punycode

The ASCII form of a label with other characters: its ASCII characters, a hyphen, and the places
and values of the others as generalised variable-length integers.
-/

namespace Rollout.Url.Punycode

def base : Nat := 36

def digit (n : Nat) : Char :=
  if n < 26 then Char.ofNat (97 + n) else Char.ofNat (22 + n)

def digitValue? (c : Char) : Option Nat :=
  if 'a' ≤ c ∧ c ≤ 'z' then some (c.toNat - 97)
  else if '0' ≤ c ∧ c ≤ '9' then some (c.toNat - 22)
  else none

/-- Least and greatest threshold are 1 and 26. -/
def threshold (k bias : Nat) : Nat :=
  if k ≤ bias then 1 else if bias + 26 ≤ k then 26 else k - bias

/-- The bias after a delta, given the number of characters handled. -/
def adapt (delta points : Nat) (first : Bool) : Nat :=
  let delta := if first then delta / 700 else delta / 2
  go 64 0 (delta + delta / points)
where
  go : Nat → Nat → Nat → Nat
    | 0, k, delta => k + 36 * delta / (delta + 38)
    | n + 1, k, delta =>
      if 455 < delta then go n (k + base) (delta / 35) else k + 36 * delta / (delta + 38)

/-- The digits of one delta; each round divides it by at least ten. -/
def digits : Nat → Nat → Nat → Nat → List Char
  | 0, _, _, q => [digit (q % base)]
  | n + 1, k, bias, q =>
    let t := threshold k bias
    if q < t then [digit q]
    else digit (t + (q - t) % (base - t)) :: digits n (k + base) bias ((q - t) / (base - t))

structure State where
  next : Nat
  delta : Nat
  bias : Nat
  handled : Nat
  out : List Char

/-- Handles every occurrence of the code point `next`, then moves past it. -/
def encodePoint (ascii : Nat) (st : State) (cs : List Char) : State :=
  let st := cs.foldl (fun st c =>
    if c.toNat < st.next then { st with delta := st.delta + 1 }
    else if c.toNat = st.next then
      { st with
        out := st.out ++ digits 64 base st.bias st.delta
        bias := adapt st.delta (st.handled + 1) (st.handled == ascii)
        delta := 0
        handled := st.handled + 1 }
    else st) st
  { st with delta := st.delta + 1, next := st.next + 1 }

/-- The least code point of the label that is not below `n`. -/
def leastFrom (n : Nat) (cs : List Char) : Option Nat :=
  ((cs.map Char.toNat).filter (n ≤ ·)).min?

def encodeRest (ascii : Nat) (cs : List Char) : Nat → State → State
  | 0, st => st
  | n + 1, st =>
    match leastFrom st.next cs with
    | none => st
    | some m =>
      let st := { st with delta := st.delta + (m - st.next) * (st.handled + 1), next := m }
      encodeRest ascii cs n (encodePoint ascii st cs)

/-- The ASCII form of a label, without its leading `xn--`. -/
def encode (cs : List Char) : List Char :=
  let ascii := cs.filter fun c => c.toNat < 128
  let lead := if ascii.isEmpty then [] else ascii ++ ['-']
  lead ++ (encodeRest ascii.length cs cs.length ⟨128, 0, 72, ascii.length, []⟩).out

/-- Reads one delta: the place reached with it, and the characters after it. Numbers have
thirty-two bits. -/
def readDelta (bias : Nat) : Nat → Nat → Nat → List Char → Option (Nat × List Char)
  | _, _, _, [] => none
  | k, w, i, c :: cs => do
    let d ← digitValue? c
    let i := i + d * w
    let t := threshold k bias
    if UInt32.size ≤ i then none
    else if d < t then some (i, cs)
    else if UInt32.size ≤ w * (base - t) then none
    else readDelta bias (k + base) (w * (base - t)) i cs

/-- Puts the remaining characters into their places; `n` bounds how many there are. -/
def decodeFrom : Nat → Nat → Nat → Nat → List Char → List Char → Option (List Char)
  | _, _, _, _, out, [] => some out
  | 0, _, _, _, _, _ :: _ => none
  | n + 1, point, i, bias, out, cs => do
    let (j, rest) ← readDelta bias base 1 i cs
    let size := out.length + 1
    let point := point + j / size
    if point < 0xD800 ∨ (0xDFFF < point ∧ point < 0x110000) then
      let place := j % size
      decodeFrom n point (place + 1) (adapt (j - i) size (i == 0))
        (out.take place ++ Char.ofNat point :: out.drop place) rest
    else none

/-- The label of an ASCII form without its leading `xn--`. A hyphen right at the start separates
nothing. -/
def decode? (cs : List Char) : Option (List Char) :=
  let tail := (cs.reverse.takeWhile (· != '-')).reverse
  let lead := (cs.take (cs.length - tail.length)).dropLast
  decodeFrom cs.length 128 0 72 lead (if lead.isEmpty then cs else tail)

end Rollout.Url.Punycode
