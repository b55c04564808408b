import Rollout.Text.Table
import Rollout.Text.Utf8
/-!
# Percent-encoding

Bytes as `%` and two hexadecimal digits. Each part of a URL has its own set of ASCII characters
that are encoded; control characters and everything outside ASCII are encoded in all of them.
-/

namespace Rollout.Url

open Text (hexDigit?)

/-- A set of visible ASCII characters that one part of a URL encodes. -/
abbrev EncodeSet := Char → Bool

def fragmentSet : EncodeSet := fun c => c ∈ [' ', '"', '<', '>', '\x60']

def querySet : EncodeSet := fun c => c ∈ [' ', '"', '#', '<', '>']

def specialQuerySet : EncodeSet := fun c => c = '\'' || querySet c

def pathSet : EncodeSet := fun c => c ∈ ['#', '?', '\x7b', '\x7d'] || fragmentSet c

def userinfoSet : EncodeSet := fun c =>
  c ∈ ['/', ':', ';', '=', '@', '[', '\\', ']', '^', '|'] || pathSet c

/-- Only control characters and what is outside ASCII. -/
def controlSet : EncodeSet := fun _ => false

def upperHexDigit (n : Nat) : Char :=
  if n < 10 then Char.ofNat (48 + n) else Char.ofNat (55 + n)

def encodeByte (b : UInt8) : List Char :=
  ['%', upperHexDigit (b.toNat / 16), upperHexDigit (b.toNat % 16)]

def encodeChar (set : EncodeSet) (c : Char) : List Char :=
  if c.toNat < 0x20 || 0x7F ≤ c.toNat || set c then
    (String.utf8EncodeChar c).flatMap encodeByte
  else [c]

def encodeChars (set : EncodeSet) (cs : List Char) : List Char :=
  cs.flatMap (encodeChar set)

/-- The bytes a text stands for; a percent sign without two digits stands for itself. -/
def decodePercent : List Char → List UInt8
  | '%' :: a :: b :: rest =>
    match hexDigit? a, hexDigit? b with
    | some x, some y => UInt8.ofNat (x * 16 + y) :: decodePercent rest
    | _, _ => 37 :: decodePercent (a :: b :: rest)
  | c :: rest => String.utf8EncodeChar c ++ decodePercent rest
  | [] => []

/-- The text that percent-decoding gives, if its bytes spell one. -/
def decoded? (s : String) : Option String :=
  Text.ofBytes? (decodePercent s.toList)

end Rollout.Url
