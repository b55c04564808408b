import Rollout.Json.Decode
import Rollout.Json.Encode
/-!
# Types with a JSON form

A type has a JSON form when it has a shape and its values correspond to the data of that shape.
-/

namespace Rollout.Json

class Wire (α : Type) where
  shape : Shape
  toDatum : α → Datum
  ofDatum : Datum → α

section

variable {α : Type} [Wire α]

def Document.read (doc : Document) : Except Fault α :=
  Wire.ofDatum <$> doc.decode (Wire.shape α)

/-- Reads a value from a text. -/
def decode (s : String) : Except Fault α := (Document.ofString s).read

/-- Reads a value from bytes that should spell a text. -/
def decodeBytes (bytes : List UInt8) : Except Fault α := (Document.ofBytes bytes).read

/-- Writes a value as a compact text. -/
def encode (a : α) : String := (Wire.shape α).encode (Wire.toDatum a)

end

instance [Wire α] : Wire (List α) where
  shape := .list (Wire.shape α)
  toDatum := .ofList Wire.toDatum
  ofDatum := Datum.asList Wire.ofDatum

end Rollout.Json
