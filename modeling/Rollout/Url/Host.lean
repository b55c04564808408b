import Rollout.Url.Domain
import Rollout.Url.Encoding
/-!
# Hosts

Domains, IPv4 and IPv6 addresses, and the opaque hosts of schemes that are not known: how each is
read and written.
-/

namespace Rollout.Url

open Text (hexDigit?)

/-- Why a text is no URL. -/
inductive Fault where
  | emptyHost
  | invalidDomain
  | invalidPort
  | invalidIpv4
  | invalidIpv6
  | invalidHostCharacter
  | relativeWithoutBase
  | relativeWithOpaqueBase
  deriving DecidableEq, Repr

def Fault.message : Fault → String
  | .emptyHost => "empty host"
  | .invalidDomain => "invalid international domain name"
  | .invalidPort => "invalid port number"
  | .invalidIpv4 => "invalid IPv4 address"
  | .invalidIpv6 => "invalid IPv6 address"
  | .invalidHostCharacter => "invalid domain character"
  | .relativeWithoutBase => "relative URL without a base"
  | .relativeWithOpaqueBase => "relative URL with a cannot-be-a-base base"

inductive Host where
  | domain (name : String)
  | ipv4 (address : Nat)
  | ipv6 (pieces : List Nat)
  deriving DecidableEq, Repr

/-! ## IPv4 -/

def radixValue (radix : Nat) (cs : List Char) : Option Nat :=
  cs.foldl (fun n c => do
    let d ← hexDigit? c
    if d < radix then some ((← n) * radix + d) else none) (some 0)

/-- A part of an IPv4 address: decimal, octal after `0`, hexadecimal after `0x`. -/
def ipv4Number? (cs : List Char) : Option Nat :=
  match cs with
  | [] => none
  | '0' :: x :: rest =>
    if x = 'x' ∨ x = 'X' then radixValue 16 rest else radixValue 8 (x :: rest)
  | cs => radixValue 10 cs

/-- Whether the last part, a final dot aside, is a number. -/
def endsInNumber (cs : List Char) : Bool :=
  let parts := (splitAt '.' cs).reverse
  let last := match parts with
    | [] :: last :: _ => last
    | [[]] => []
    | last :: _ => last
    | [] => []
  (!last.isEmpty && last.all Char.isDigit) || (ipv4Number? last).isSome

/-- The last number fills the bytes that the others leave. -/
def ipv4Value? : List Nat → Option Nat
  | [] => none
  | [n] => some n
  | numbers =>
    let last := numbers.getLast?.getD 0
    let front := numbers.dropLast
    let room := Nat.pow 256 (4 - front.length)
    if front.all (· < 256) && last < room then
      some (front.foldl (fun value n => value * 256 + n) 0 * room + last)
    else none

def readIpv4 (cs : List Char) : Except Fault Host :=
  let parts := splitAt '.' cs
  let parts := if parts.getLast? = some [] then parts.dropLast else parts
  if 4 < parts.length then .error .invalidIpv4
  else
    match parts.mapM ipv4Number? >>= ipv4Value? with
    | some n => if n < UInt32.size then .ok (.ipv4 n) else .error .invalidIpv4
    | none => .error .invalidIpv4

def ipv4Text (n : Nat) : String :=
  ".".intercalate ([3, 2, 1, 0].map fun i => toString (n / Nat.pow 256 i % 256))

/-! ## IPv6 -/

/-- Up to four hexadecimal digits. -/
def readPiece (cs : List Char) : Nat × List Char :=
  let ds := (cs.takeWhile fun c => (hexDigit? c).isSome).take 4
  ((radixValue 16 ds).getD 0, cs.drop ds.length)

/-- A decimal number below 256 without leading zeros. -/
def readOctet? (cs : List Char) : Option (Nat × List Char) :=
  let ds := cs.takeWhile Char.isDigit
  match radixValue 10 ds with
  | some n =>
    if ds.isEmpty || (ds.length > 1 && ds.head? == some '0') || 255 < n then none
    else some (n, cs.drop ds.length)
  | none => none

/-- Four numbers with dots at the end of an IPv6 address, as two pieces. -/
def readDotted? (cs : List Char) : Option (List Nat) := do
  let (a, cs) ← readOctet? cs
  let (b, cs) ← after cs
  let (c, cs) ← after cs
  let (d, cs) ← after cs
  if cs.isEmpty then some [a * 256 + b, c * 256 + d] else none
where
  after : List Char → Option (Nat × List Char)
    | '.' :: cs => readOctet? cs
    | _ => none

/-- The pieces before and after the gap; the gap is `none` while there is none. -/
structure Pieces where
  front : List Nat
  back : Option (List Nat)

def Pieces.count (p : Pieces) : Nat := p.front.length + (p.back.getD []).length

def Pieces.add (p : Pieces) (ns : List Nat) : Pieces :=
  match p.back with
  | none => { p with front := p.front ++ ns }
  | some back => { p with back := some (back ++ ns) }

/-- Reads pieces separated by colons; `n` bounds how many there may still be. -/
def readPieces : Nat → Pieces → List Char → Option Pieces
  | _, p, [] => some p
  | 0, _, _ :: _ => none
  | n + 1, p, c :: cs =>
    if 8 ≤ p.count then none
    else if c = ':' then
      if p.back.isSome then none else readPieces n { p with back := some [] } cs
    else
      let (value, rest) := readPiece (c :: cs)
      match rest with
      | '.' :: _ =>
        if 6 < p.count then none else p.add <$> readDotted? (c :: cs)
      | [] => if (c :: cs).length = rest.length then none else some (p.add [value])
      | ':' :: [] => none
      | ':' :: rest =>
        if (hexDigit? c).isNone then none else readPieces n (p.add [value]) rest
      | _ => none

def readIpv6 (cs : List Char) : Except Fault Host :=
  let pieces := match cs with
    | ':' :: ':' :: rest => readPieces 9 ⟨[], some []⟩ rest
    | ':' :: _ => none
    | cs => readPieces 9 ⟨[], none⟩ cs
  match pieces with
  | some ⟨front, some back⟩ =>
    let gap := 8 - front.length - back.length
    if gap = 0 then .error .invalidIpv6
    else .ok (.ipv6 (front ++ List.replicate gap 0 ++ back))
  | some ⟨front, none⟩ =>
    if front.length = 8 then .ok (.ipv6 front) else .error .invalidIpv6
  | none => .error .invalidIpv6

/-- The length of the run of zeros at the head. -/
def zeroRun (ns : List Nat) : Nat := (ns.takeWhile (· == 0)).length

/-- Start and length of the first longest run of zeros. -/
def longestRun (ns : List Nat) : Nat × Nat :=
  (List.range ns.length).foldl (fun best i =>
    let n := zeroRun (ns.drop i)
    if best.2 < n then (i, n) else best) (0, 0)

def hexText (n : Nat) : String := String.ofList (Nat.toDigits 16 n)

/-- A run of two zeros or more is left out, the longest one. -/
def ipv6Text (ns : List Nat) : String :=
  let (start, length) := longestRun ns
  if length < 2 then ":".intercalate (ns.map hexText)
  else
    ":".intercalate ((ns.take start).map hexText) ++ "::"
      ++ ":".intercalate ((ns.drop (start + length)).map hexText)

/-! ## Hosts -/

/-- The host of a scheme that is known. -/
def readHost (cs : List Char) : Except Fault Host :=
  match cs with
  | '[' :: rest =>
    if rest.getLast? = some ']' then readIpv6 rest.dropLast else .error .invalidIpv6
  | cs =>
    match Text.ofBytes? (decodePercent cs) with
    | none => .error .invalidDomain
    | some s =>
      match Domain.ascii? s.toList with
      | none => .error .invalidDomain
      | some cs =>
        if cs.isEmpty then .error .emptyHost
        else if endsInNumber cs then readIpv4 cs
        else .ok (.domain (String.ofList cs))

/-- ASCII characters that no opaque host has. -/
def isForbiddenInHost (c : Char) : Bool :=
  c ∈ ['\x00', '\t', '\n', '\r', ' ', '#', '/', ':', '<', '>', '?', '@', '[', '\\', ']', '^', '|']

/-- The host of a scheme that is not known. -/
def readOpaqueHost (cs : List Char) : Except Fault Host :=
  match cs with
  | '[' :: rest =>
    if rest.getLast? = some ']' then readIpv6 rest.dropLast else .error .invalidIpv6
  | cs =>
    if cs.any isForbiddenInHost then .error .invalidHostCharacter
    else .ok (.domain (String.ofList (encodeChars controlSet cs)))

def Host.text : Host → String
  | .domain name => name
  | .ipv4 n => ipv4Text n
  | .ipv6 pieces => "[" ++ ipv6Text pieces ++ "]"

end Rollout.Url
