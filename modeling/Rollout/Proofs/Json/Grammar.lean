import Rollout.Json.Reader
/-!
# The grammar of JSON texts

Which texts spell which trees, apart from how a text is read. Every relation is between a text and
what is left of it behind the part that is spelled. A tree without a flaw is all there is to spell:
a text that breaks off, or in which something else stands, spells nothing.
-/

namespace Rollout.Json

open Text

/-- Some blanks, or none. -/
inductive Blanks : List Symbol → List Symbol → Prop where
  | none {s : List Symbol} : Blanks s s
  | more {b : Symbol} {s rest : List Symbol} (blank : isSpace b = true) (later : Blanks s rest) :
      Blanks (b :: s) rest

/-! ## Numbers -/

structure AreDigits (ds : List Char) : Prop where
  nonempty : ds ≠ []
  digits : ∀ d ∈ ds, d.isDigit = true

/-- Digits of which the first is no zero, or a zero alone. -/
structure AreWhole (ds : List Char) : Prop extends AreDigits ds where
  leading : ∀ rest, ds = '0' :: rest → rest = []

inductive SignText : Bool → List Symbol → List Symbol → Prop where
  | absent {s : List Symbol} : SignText false s s
  | minus {s : List Symbol} : SignText true (.char '-' :: s) s

inductive FractionText : Option (List Char) → List Symbol → List Symbol → Prop where
  | absent {s : List Symbol} : FractionText none s s
  | present {ds : List Char} {rest : List Symbol} (digits : AreDigits ds) :
      FractionText (some ds) (.char '.' :: (ds.map .char ++ rest)) rest

def IsExponentMark (c : Char) : Prop := c = 'e' ∨ c = 'E'

inductive ExponentText : Option (Bool × List Char) → List Symbol → List Symbol → Prop where
  | absent {s : List Symbol} : ExponentText none s s
  | bare {c : Char} {ds : List Char} {rest : List Symbol} (mark : IsExponentMark c)
      (digits : AreDigits ds) :
      ExponentText (some (false, ds)) (.char c :: (ds.map .char ++ rest)) rest
  | plus {c : Char} {ds : List Char} {rest : List Symbol} (mark : IsExponentMark c)
      (digits : AreDigits ds) :
      ExponentText (some (false, ds)) (.char c :: .char '+' :: (ds.map .char ++ rest)) rest
  | minus {c : Char} {ds : List Char} {rest : List Symbol} (mark : IsExponentMark c)
      (digits : AreDigits ds) :
      ExponentText (some (true, ds)) (.char c :: .char '-' :: (ds.map .char ++ rest)) rest

inductive NumberText (n : Numeral) (s rest : List Symbol) : Prop where
  | intro {t u : List Symbol} (sign : SignText n.negative s (n.whole.map .char ++ t))
      (whole : AreWhole n.whole) (fraction : FractionText n.fraction t u)
      (exponent : ExponentText n.exponent u rest)

/-! ## Strings -/

/-- The pieces of a literal and its closing quote. -/
inductive LiteralText : List Piece → List Symbol → List Symbol → Prop where
  | closed {rest : List Symbol} : LiteralText [] (.char '"' :: rest) rest
  | plain {c : Char} {ps : List Piece} {s rest : List Symbol} (quote : c ≠ '"')
      (backslash : c ≠ '\\') (control : 0x20 ≤ c.toNat) (later : LiteralText ps s rest) :
      LiteralText (.plain (.char c) :: ps) (.char c :: s) rest
  | stray {b : UInt8} {ps : List Piece} {s rest : List Symbol} (later : LiteralText ps s rest) :
      LiteralText (.plain (.stray b) :: ps) (.stray b :: s) rest
  | escape {c e : Char} {ps : List Piece} {s rest : List Symbol} (stands : shortEscape? c = some e)
      (later : LiteralText ps s rest) :
      LiteralText (.escape e :: ps) (.char '\\' :: .char c :: s) rest
  | unit {a b c d : Symbol} {w x y z : Nat} {ps : List Piece} {s rest : List Symbol}
      (ha : hexValue? a = some w) (hb : hexValue? b = some x) (hc : hexValue? c = some y)
      (hd : hexValue? d = some z) (later : LiteralText ps s rest) :
      LiteralText (.unit (UInt16.ofNat (((w * 16 + x) * 16 + y) * 16 + z)) :: ps)
        (.char '\\' :: .char 'u' :: a :: b :: c :: d :: s) rest

/-! ## Values -/

mutual

inductive ValueText : Node → List Symbol → List Symbol → Prop where
  | nullWord {rest : List Symbol} :
      ValueText .null (.char 'n' :: (['u', 'l', 'l'].map .char ++ rest)) rest
  | trueWord {rest : List Symbol} :
      ValueText (.bool true) (.char 't' :: (['r', 'u', 'e'].map .char ++ rest)) rest
  | falseWord {rest : List Symbol} :
      ValueText (.bool false) (.char 'f' :: (['a', 'l', 's', 'e'].map .char ++ rest)) rest
  | number {n : Numeral} {s rest : List Symbol} (h : NumberText n s rest) :
      ValueText (.number n) s rest
  | string {ps : List Piece} {s rest : List Symbol} (h : LiteralText ps s rest) :
      ValueText (.string ⟨ps, .closed⟩) (.char '"' :: s) rest
  | emptyArray {s rest : List Symbol} (h : Blanks s (.char ']' :: rest)) :
      ValueText (.array [] .closed) (.char '[' :: s) rest
  | array {items : List Node} {s rest : List Symbol} (h : ItemsText items s rest) :
      ValueText (.array items .closed) (.char '[' :: s) rest
  | emptyObject {s rest : List Symbol} (h : Blanks s (.char '\x7d' :: rest)) :
      ValueText (.object [] .closed) (.char '\x7b' :: s) rest
  | object {members : List (Literal × Node)} {s rest : List Symbol}
      (h : MembersText members s rest) :
      ValueText (.object members .closed) (.char '\x7b' :: s) rest

/-- Values with commas between them, and the bracket. -/
inductive ItemsText : List Node → List Symbol → List Symbol → Prop where
  | last {item : Node} {s t u rest : List Symbol} (before : Blanks s t) (value : ValueText item t u)
      (after : Blanks u (.char ']' :: rest)) : ItemsText [item] s rest
  | more {item : Node} {items : List Node} {s t u v rest : List Symbol} (before : Blanks s t)
      (value : ValueText item t u) (after : Blanks u (.char ',' :: v))
      (later : ItemsText items v rest) : ItemsText (item :: items) s rest

/-- Keys and values with commas between them, and the bracket. -/
inductive MembersText : List (Literal × Node) → List Symbol → List Symbol → Prop where
  | last {ps : List Piece} {value : Node} {s k l t u v rest : List Symbol}
      (start : Blanks s (.char '"' :: k)) (key : LiteralText ps k l)
      (colon : Blanks l (.char ':' :: t)) (before : Blanks t u) (text : ValueText value u v)
      (after : Blanks v (.char '\x7d' :: rest)) : MembersText [(⟨ps, .closed⟩, value)] s rest
  | more {ps : List Piece} {value : Node} {members : List (Literal × Node)}
      {s k l t u v w rest : List Symbol} (start : Blanks s (.char '"' :: k))
      (key : LiteralText ps k l) (colon : Blanks l (.char ':' :: t)) (before : Blanks t u)
      (text : ValueText value u v) (after : Blanks v (.char ',' :: w))
      (later : MembersText members w rest) :
      MembersText ((⟨ps, .closed⟩, value) :: members) s rest

end

/-- A value with blanks around it. -/
inductive Padded (n : Node) (s rest : List Symbol) : Prop where
  | intro {t u : List Symbol} (before : Blanks s t) (value : ValueText n t u)
      (after : Blanks u rest)

/-- A whole text: a value and nothing else but blanks. -/
def DocumentText (n : Node) (s : List Symbol) : Prop := Padded n s []

end Rollout.Json
