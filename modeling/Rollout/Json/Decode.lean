import Rollout.Json.Reader
import Rollout.Json.Shape
/-!
# Decoding

Reading a datum through a shape, from a syntax tree or from a value that was kept before. From a
tree the first problem from left to right is the one that is reported. A record is an object, or
a list of its fields in order.
-/

namespace Rollout.Json

open Decimal

/-- What a tree is when something else was wanted. -/
def Node.found : Node → Except SyntaxFault Found
  | .null => .ok .null
  | .bool b => .ok (.bool b)
  | .number n => .number <$> n.value
  | .string s => .string <$> s.text
  | .array _ _ => .ok .sequence
  | .object _ _ => .ok .map
  | .broken flaw => .error flaw.kept

def Node.mismatch {α : Type} (n : Node) (wanted : String) : Except Fault α :=
  match n.found with
  | .ok found => .error (.mismatch (.invalidType found wanted))
  | .error fault => .error (.malformed fault)

def Value.found : Value → Found
  | .null => .null
  | .bool b => .bool b
  | .number n => .number n
  | .string s => .string s
  | .array _ => .sequence
  | .object _ => .map

def Value.mismatch {α : Type} (v : Value) (wanted : String) : Except Fault α :=
  .error (.mismatch (.invalidType v.found wanted))

/-- A natural of the width, if the number is one. -/
def Width.read (w : Width) : Number → Except Fault Datum
  | .natural n =>
    if n.toNat < w.size then .ok (.natural n)
    else .error (.mismatch (.invalidValue (.number (.natural n)) w.name))
  | .negative n => .error (.mismatch (.invalidValue (.number (.negative n)) w.name))
  | .real x => .error (.mismatch (.invalidType (.number (.real x)) w.name))

def Number.toDouble : Number → Double
  | .natural n => .ofNat n.toNat
  | .negative n => .ofRatio true n.toInt.natAbs 1
  | .real x => x

def readVariant (names : List (String × String)) (s : String) : Except Fault Datum :=
  match names.lookup s with
  | some name => .ok (.text name)
  | none => .error (.mismatch (.unknownVariant s (names.map (·.1))))

/-- The report on what follows the only member of an object. -/
def endOfVariant : List (Literal × Node) → Ending → Option SyntaxFault
  | [], .closed => none
  | [], .cut => some (.eof .object)
  | _, _ => some .expectedValue

def expectNull (n : Node) : Except Fault Unit :=
  match n with
  | .null => .ok ()
  | n => n.mismatch "unit"

/-- A name on its own, or as the key of an object with one null member. -/
def variantOfNode (names : List (String × String)) (depth : Nat) : Node → Except Fault Datum
  | .string s => do readVariant names (← orMalformed s.text)
  | .object [] ending => do
    let _ ← enter depth
    reject ending.keptInObject
    .error (.malformed .expectedValue)
  | .object ((key, value) :: members) ending => do
    let _ ← enter depth
    let d ← readVariant names (← orMalformed key.text)
    expectNull value
    reject (endOfVariant members ending)
    return d
  | .broken .nothing => .error (.malformed (.eof .value))
  | .broken .colonCut => .error (.malformed (.eof .object))
  | .broken .colonMissing => .error (.malformed .expectedColon)
  | _ => .error (.malformed .expectedValue)

def variantOfValue (names : List (String × String)) : Value → Except Fault Datum
  | .string s => readVariant names s
  | .object [(key, value)] => do
    let d ← readVariant names key
    match value with
    | .null => return d
    | v => v.mismatch "unit"
  | .object _ => .error (.mismatch (.invalidValue .map "map with a single key"))
  | v => v.mismatch "string or map"

/-- Every item, in order. -/
def readEach {α β : Type} (read : α → Except Fault β) : List α → Except Fault (List β)
  | [] => .ok []
  | a :: rest => do
    let b ← read a
    let rest ← readEach read rest
    return b :: rest

/-- Every member in order, its key as a text first. -/
def readMembersWith {σ : Type} (step : σ → String → Node → Except Fault σ) :
    σ → List (Literal × Node) → Except Fault σ
  | st, [] => .ok st
  | st, (key, value) :: members => do
    let key ← orMalformed key.text
    let st ← step st key value
    readMembersWith step st members

def putLabel (labels : Dict String) (key : String) (value : Node) : Except Fault (Dict String) :=
  match value with
  | .string s => labels.insert key <$> orMalformed s.text
  | n => n.mismatch "a string"

def labelsOfMembers : Dict String → List (String × Value) → Except Fault (Dict String)
  | labels, [] => .ok labels
  | labels, (key, .string s) :: members => labelsOfMembers (labels.insert key s) members
  | _, (_, v) :: _ => v.mismatch "a string"

/-- What is left of a list after the fields of a record were taken from it. -/
def leftOver (items : List Node) (ending : Ending) : Option SyntaxFault :=
  if items.isEmpty then ending.left else some .trailingCharacters

mutual

/-- Reads through a shape from a kept value. -/
def Shape.ofValue : Shape → Value → Except Fault Datum
  | .text, .string s => .ok (.text s)
  | .text, v => v.mismatch "a string"
  | .bool, .bool b => .ok (.bool b)
  | .bool, v => v.mismatch "a boolean"
  | .natural w, .number n => w.read n
  | .natural w, v => v.mismatch w.name
  | .double, .number n => .ok (.double n.toDouble)
  | .double, v => v.mismatch "f64"
  | .optional _, .null => .ok .absent
  | .optional shape, v => shape.ofValue v
  | .list shape, .array items => .list <$> readEach shape.ofValue items
  | .list _, v => v.mismatch "a sequence"
  | .labels, .object members => .labels <$> labelsOfMembers .empty members
  | .labels, v => v.mismatch "a map"
  | .any, v => .ok (.any v.sorted)
  | .variant names, v => variantOfValue names v
  | .record _ row, .object members => do
    let slots ← members.foldlM (fun slots m => row.putValue m.1 m.2 slots) row.unfilled
    return .record (← row.finish slots)
  | .record name row, .array items => do
    let (fields, rest) ← row.valuesInOrder (row.described name) 0 items
    if rest = 0 then return .record fields
    else .error (.mismatch (.invalidLength (row.length + rest)
      (toString row.length ++ (if row.length = 1 then " element" else " elements")
        ++ " in sequence")))
  | .record name _, v => v.mismatch ("struct " ++ name)
  | .flattened name _ _ _, v => v.mismatch ("struct " ++ name)

/-- Puts a kept member into its slot; members that the row does not name are passed over. -/
def Row.putValue : Row → String → Value → List (Option Datum) →
    Except Fault (List (Option Datum))
  | .cons name shape _ _ row, key, v, slot :: slots =>
    if key = name then
      if slot.isSome then .error (.mismatch (.duplicateField name))
      else (fun d => some d :: slots) <$> shape.ofValue v
    else (slot :: ·) <$> row.putValue key v slots
  | _, _, _, slots => .ok slots

/-- The fields of a record from kept items in order, and how many items are left. -/
def Row.valuesInOrder : Row → String → Nat → List Value → Except Fault (List Datum × Nat)
  | .nil, _, _, items => .ok ([], items.length)
  | .cons _ _ fallback _ row, described, n, [] =>
    match fallback with
    | none => .error (.mismatch (.invalidLength n described))
    | some d => do
      let (fields, rest) ← row.valuesInOrder described (n + 1) []
      return (d :: fields, rest)
  | .cons _ shape _ _ row, described, n, item :: items => do
    let d ← shape.ofValue item
    let (fields, rest) ← row.valuesInOrder described (n + 1) items
    return (d :: fields, rest)

end

mutual

/-- Reads through a shape from a tree. -/
def Shape.ofNode : Shape → Nat → Node → Except Fault Datum
  | .text, _, .string s => .text <$> orMalformed s.text
  | .text, _, n => n.mismatch "a string"
  | .bool, _, .bool b => .ok (.bool b)
  | .bool, _, n => n.mismatch "a boolean"
  | .natural w, _, .number n => do w.read (← orMalformed n.value)
  | .natural w, _, n => n.mismatch w.name
  | .double, _, .number n => do return .double (← orMalformed n.value).toDouble
  | .double, _, n => n.mismatch "f64"
  | .optional _, _, .null => .ok .absent
  | .optional shape, depth, n => shape.ofNode depth n
  | .list shape, depth, .array items ending => do
    let depth ← enter depth
    let items ← readEach (shape.ofNode depth) items
    reject ending.keptInArray
    return .list items
  | .list _, _, n => n.mismatch "a sequence"
  | .labels, depth, .object members ending => do
    let _ ← enter depth
    let labels ← readMembersWith putLabel .empty members
    reject ending.keptInObject
    return .labels labels
  | .labels, _, n => n.mismatch "a map"
  | .any, depth, n => (fun v => .any v.sorted) <$> n.keep depth
  | .variant names, depth, n => variantOfNode names depth n
  | .record _ row, depth, .object members ending => do
    let depth ← enter depth
    let slots ← readMembersWith (fun slots key n => row.putNode depth key n slots)
      row.unfilled members
    reject ending.keptInObject
    return .record (← row.finish slots)
  | .record name row, depth, .array items ending => do
    let depth ← enter depth
    let (fields, rest) ← row.nodesInOrder depth (row.described name) ending 0 items
    reject (leftOver rest ending)
    return .record fields
  | .record name _, _, n => n.mismatch ("struct " ++ name)
  | .flattened _ inner innerRow row, depth, .object members ending => do
    let depth ← enter depth
    let (slots, kept) ← readMembersWith
      (fun (slots, kept) key n =>
        if key ∈ row.names then do return (← row.putNode depth key n slots, kept)
        else do return (slots, kept ++ [(key, ← n.keep depth)]))
      (row.unfilled, []) members
    reject ending.keptInObject
    let own ← row.finish slots
    let d ← Shape.ofValue (.record inner innerRow) (.object kept)
    return .record (d :: own)
  | .flattened name _ _ _, _, n => n.mismatch ("struct " ++ name)

/-- Puts a member into its slot; members that the row does not name are skipped. -/
def Row.putNode : Row → Nat → String → Node → List (Option Datum) →
    Except Fault (List (Option Datum))
  | .cons name shape _ _ row, depth, key, n, slot :: slots =>
    if key = name then
      if slot.isSome then .error (.mismatch (.duplicateField name))
      else (fun d => some d :: slots) <$> shape.ofNode depth n
    else (slot :: ·) <$> row.putNode depth key n slots
  | _, _, _, n, slots => do
    reject n.skipped
    return slots

/-- The fields of a record from items in order, and the items that are left. -/
def Row.nodesInOrder : Row → Nat → String → Ending → Nat → List Node →
    Except Fault (List Datum × List Node)
  | .nil, _, _, _, _, items => .ok ([], items)
  | .cons _ _ fallback _ row, depth, described, ending, n, [] => do
    reject ending.keptInArray
    match fallback with
    | none => .error (.mismatch (.invalidLength n described))
    | some d => do
      let (fields, rest) ← row.nodesInOrder depth described ending (n + 1) []
      return (d :: fields, rest)
  | .cons _ shape _ _ row, depth, described, ending, n, item :: items => do
    let d ← shape.ofNode depth item
    let (fields, rest) ← row.nodesInOrder depth described ending (n + 1) items
    return (d :: fields, rest)

end

/-- Reads a whole document through a shape. -/
def Document.decode (shape : Shape) (doc : Document) : Except Fault Datum := do
  let d ← shape.ofNode depthLimit doc.root
  if doc.trailing then .error (.malformed .trailingCharacters) else return d

/-- The value of a whole document, keys in order. -/
def Document.value (doc : Document) : Except Fault Value := do
  let v ← doc.root.keep depthLimit
  if doc.trailing then .error (.malformed .trailingCharacters) else return v.sorted

end Rollout.Json
