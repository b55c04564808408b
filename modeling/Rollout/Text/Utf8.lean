/-!
# UTF-8

Reading bytes as characters. `symbols` loses nothing: a byte that belongs to no character is kept
as a stray byte. `lossy` puts one replacement character for each longest run of bytes that starts
a character without finishing it.
-/

namespace Rollout.Text

/-- A character, or a byte that belongs to none. -/
inductive Symbol where
  | char (c : Char)
  | stray (b : UInt8)
  deriving DecidableEq, Repr

namespace Symbol

def ofString (s : String) : List Symbol :=
  s.toList.map char

/-- Bytes the symbol takes up. -/
def size : Symbol → Nat
  | char c => c.utf8Size
  | stray _ => 1

end Symbol

/-- How a character may continue after its first byte: the range of the second byte, the number
of bytes after that, and the bits the first byte contributes. -/
structure Lead where
  low : Nat
  high : Nat
  more : Nat
  bits : Nat

def leadOf (b : Nat) : Option Lead :=
  if 0xC2 ≤ b ∧ b ≤ 0xDF then some ⟨0x80, 0xBF, 0, b - 0xC0⟩
  else if b = 0xE0 then some ⟨0xA0, 0xBF, 1, 0⟩
  else if b = 0xED then some ⟨0x80, 0x9F, 1, 0xD⟩
  else if 0xE1 ≤ b ∧ b ≤ 0xEF then some ⟨0x80, 0xBF, 1, b - 0xE0⟩
  else if b = 0xF0 then some ⟨0x90, 0xBF, 2, 0⟩
  else if 0xF1 ≤ b ∧ b ≤ 0xF3 then some ⟨0x80, 0xBF, 2, b - 0xF0⟩
  else if b = 0xF4 then some ⟨0x80, 0x8F, 2, 4⟩
  else none

/-- Takes `n` continuation bytes into the code point built so far; with them, how many bytes
could be taken. -/
def takeTail : Nat → Nat → List UInt8 → Option Nat × Nat
  | 0, acc, _ => (some acc, 0)
  | _ + 1, _, [] => (none, 0)
  | n + 1, acc, b :: rest =>
    if 0x80 ≤ b.toNat ∧ b.toNat ≤ 0xBF then
      let (code, taken) := takeTail n (acc * 64 + (b.toNat - 0x80)) rest
      (code, taken + 1)
    else (none, 0)

/-- The character at the head of the bytes, if there is one, and how many bytes after the first
belong to it or to the attempt at it. -/
def headChar (b : UInt8) (rest : List UInt8) : Option Char × Nat :=
  if b.toNat < 0x80 then (some (Char.ofNat b.toNat), 0)
  else
    match leadOf b.toNat, rest with
    | some lead, second :: rest =>
      if lead.low ≤ second.toNat ∧ second.toNat ≤ lead.high then
        let (code, taken) :=
          takeTail lead.more (lead.bits * 64 + (second.toNat - 0x80)) rest
        (code.map Char.ofNat, taken + 1)
      else (none, 0)
    | _, _ => (none, 0)

theorem length_drop_le_succ {α : Type} (n : Nat) (b : α) (rest : List α) :
    (rest.drop n).length < (b :: rest).length := by
  simp only [List.length_drop, List.length_cons]
  omega

/-- The bytes as characters and stray bytes. -/
def symbols : List UInt8 → List Symbol
  | [] => []
  | b :: rest =>
    match headChar b rest with
    | (some c, n) => .char c :: symbols (rest.drop n)
    | (none, _) => .stray b :: symbols rest
  termination_by bytes => bytes.length
  decreasing_by
    · exact length_drop_le_succ _ _ _
    · simp

/-- The bytes as characters, each broken-off character read as U+FFFD. -/
def lossyChars : List UInt8 → List Char
  | [] => []
  | b :: rest =>
    match headChar b rest with
    | (some c, n) => c :: lossyChars (rest.drop n)
    | (none, n) => '\uFFFD' :: lossyChars (rest.drop n)
  termination_by bytes => bytes.length
  decreasing_by all_goals exact length_drop_le_succ _ _ _

def lossy (bytes : List UInt8) : String :=
  String.ofList (lossyChars bytes)

/-- The characters of the symbols, if no byte among them is stray. -/
def charsOf? : List Symbol → Option (List Char)
  | [] => some []
  | .char c :: rest => (c :: ·) <$> charsOf? rest
  | .stray _ :: _ => none

/-- The text the bytes spell, if every byte belongs to a character. -/
def ofBytes? (bytes : List UInt8) : Option String :=
  String.ofList <$> charsOf? (symbols bytes)

/-- The bytes that spell a text. -/
def toBytes (s : String) : List UInt8 :=
  s.toUTF8.toList

end Rollout.Text
