import Rollout.Proofs.Json.Values
/-!
# What a shape describes

Which data are of a shape and can be told apart in writing: a member that is left out when it is
empty is empty in one way only, and nothing is present that is written like something absent.
-/

namespace Rollout.Json

open Decimal

mutual

/-- The doubles in a datum. -/
def Datum.doubles : Datum → List Double
  | .double x => [x]
  | .list items => doublesOf items
  | .any v => v.doubles
  | .record fields => doublesOf fields
  | _ => []

def doublesOf : List Datum → List Double
  | [] => []
  | d :: ds => d.doubles ++ doublesOf ds

end

mutual

/-- Levels of brackets around the parts of a shape, apart from values of any kind. -/
def Shape.levels : Shape → Nat
  | .optional shape => shape.levels
  | .list shape => shape.levels + 1
  | .labels => 1
  | .record _ row => row.levels + 1
  | .flattened _ _ innerRow row => max innerRow.levels row.levels + 1
  | .text | .bool | .natural _ | .double | .any | .variant _ => 0

def Row.levels : Row → Nat
  | .nil => 0
  | .cons _ shape _ _ row => max shape.levels row.levels

end

mutual

/-- A datum is one of a shape, its values of any kind nest no deeper than a text at the given depth
may, and nothing is present that would be taken for absent. -/
inductive Shape.Describes : Shape → Nat → Datum → Prop where
  | text {depth : Nat} (s : String) : Shape.Describes .text depth (.text s)
  | bool {depth : Nat} (b : Bool) : Shape.Describes .bool depth (.bool b)
  | natural {depth : Nat} {w : Width} {n : UInt64} (fits : n.toNat < w.size) :
      Shape.Describes (.natural w) depth (.natural n)
  | double {depth : Nat} (x : Double) : Shape.Describes .double depth (.double x)
  | absent {depth : Nat} {shape : Shape} : Shape.Describes (.optional shape) depth .absent
  | present {depth : Nat} {shape : Shape} {d : Datum} (some : Shape.Describes shape depth d)
      (null : d ≠ .any .null) : Shape.Describes (.optional shape) depth d
  | list {depth : Nat} {shape : Shape} {items : List Datum}
      (each : ∀ d ∈ items, Shape.Describes shape (depth - 1) d) :
      Shape.Describes (.list shape) depth (.list items)
  | labels {depth : Nat} (entries : Dict String) : Shape.Describes .labels depth (.labels entries)
  | any {depth : Nat} {v : Value} (within : v.Within (depth - 1)) :
      Shape.Describes .any depth (.any v)
  | variant {depth : Nat} {names : List (String × String)} {s : String}
      (known : names.lookup s = some s) : Shape.Describes (.variant names) depth (.text s)
  | record {depth : Nat} {name : String} {row : Row} {fields : List Datum}
      (each : Row.Describes row (depth - 1) fields) :
      Shape.Describes (.record name row) depth (.record fields)
  | flattened {depth : Nat} {name inner : String} {innerRow row : Row} {fields own : List Datum}
      (held : Row.Describes innerRow (depth - 1) fields)
      (each : Row.Describes row (depth - 1) own) :
      Shape.Describes (.flattened name inner innerRow row) depth (.record (.record fields :: own))

/-- Every field is described, and one that is left out is what stands for a missing one. -/
inductive Row.Describes : Row → Nat → List Datum → Prop where
  | nil {depth : Nat} : Row.Describes .nil depth []
  | cons {depth : Nat} {name : String} {shape : Shape} {fallback : Option Datum} {sparse : Bool}
      {row : Row} {d : Datum} {fields : List Datum} (first : Shape.Describes shape depth d)
      (empty : sparse = true → d.isEmpty = true → fallback = some d)
      (later : Row.Describes row depth fields) :
      Row.Describes (.cons name shape fallback sparse row) depth (d :: fields)

end

theorem describes_any {depth : Nat} {v : Value} :
    Shape.any.Describes depth (.any v) ↔ v.Within (depth - 1) := by
  constructor
  · intro h
    cases h with
    | any within => exact within
  · exact .any

theorem describes_record {depth : Nat} {name : String} {row : Row} {fields : List Datum} :
    (Shape.record name row).Describes depth (.record fields) ↔
      row.Describes (depth - 1) fields := by
  constructor
  · intro h
    cases h with
    | record each => exact each
  · exact .record

theorem Row.describes_cons {depth : Nat} {name : String} {shape : Shape} {fallback : Option Datum}
    {sparse : Bool} {row : Row} {d : Datum} {fields : List Datum} :
    (Row.cons name shape fallback sparse row).Describes depth (d :: fields) ↔
      shape.Describes depth d ∧ (sparse = true → d.isEmpty = true → fallback = some d) ∧
        row.Describes depth fields := by
  constructor
  · intro h
    cases h with
    | cons first empty later => exact ⟨first, empty, later⟩
  · rintro ⟨first, empty, later⟩
    exact .cons first empty later

theorem readsBack_data {ds : List Datum} (h : ∀ x ∈ doublesOf ds, ReadsBack x) :
    ∀ d ∈ ds, ∀ x ∈ d.doubles, ReadsBack x := by
  induction ds with
  | nil => exact nofun
  | cons d ds ih =>
      rw [doublesOf, List.forall_mem_append] at h
      exact List.forall_mem_cons.mpr ⟨h.1, ih h.2⟩

/-! ## Parts of records -/

section

variable {α : Type} {depth : Nat} {name : String} {shape : Shape} {fallback d : Datum} {row : Row}
  {fields : List Datum} {f : α → Datum}

theorem Row.Describes.required (first : shape.Describes depth d)
    (later : row.Describes depth fields) :
    (Row.required name shape row).Describes depth (d :: fields) :=
  .cons first nofun later

theorem Row.Describes.default (first : shape.Describes depth d)
    (later : row.Describes depth fields) :
    (Row.default name shape fallback row).Describes depth (d :: fields) :=
  .cons first nofun later

theorem describes_ofOption {o : Option α}
    (first : ∀ a, o = some a → shape.Describes depth (f a))
    (null : ∀ a, o = some a → f a ≠ .any .null) :
    (Shape.optional shape).Describes depth (.ofOption f o) := by
  cases o with
  | none => exact .absent
  | some a => exact .present (first a rfl) (null a rfl)

theorem describes_ofList {items : List α} (each : ∀ a, shape.Describes (depth - 1) (f a)) :
    (Shape.list shape).Describes depth (.ofList f items) :=
  .list (List.forall_mem_map.mpr fun a _ => each a)

theorem Row.Describes.maybe {o : Option α}
    (first : ∀ a, o = some a → shape.Describes depth (f a))
    (present : ∀ a, o = some a → f a ≠ .any .null ∧ (f a).isEmpty = false)
    (later : row.Describes depth fields) :
    (Row.maybe name shape row).Describes depth (.ofOption f o :: fields) := by
  refine .cons (describes_ofOption first fun a ha => (present a ha).1) (fun _ hempty => ?_) later
  cases o with
  | none => rfl
  | some a => exact absurd hempty (by simp [Datum.ofOption, (present a rfl).2])

theorem Row.Describes.sparseList {items : List α} (each : ∀ a, shape.Describes (depth - 1) (f a))
    (later : row.Describes depth fields) :
    (Row.sparse name (.list shape) (.list []) row).Describes depth (.ofList f items :: fields) := by
  refine .cons (describes_ofList each) (fun _ hempty => ?_) later
  cases items with
  | nil => rfl
  | cons a items => cases hempty

theorem Row.Describes.sparseLabels {labels : Dict String} (later : row.Describes depth fields) :
    (Row.sparse name .labels (.labels .empty) row).Describes depth (.labels labels :: fields) := by
  refine .cons (.labels labels) (fun _ hempty => ?_) later
  obtain ⟨entries, order⟩ := labels
  cases entries with
  | nil => rfl
  | cons e entries => cases hempty

end

/-! ## Parts of data -/

theorem asOption_ofOption {α : Type} {f : α → Datum} {g : Datum → α} (h : ∀ a, g (f a) = a)
    (present : ∀ a, f a ≠ .absent) (o : Option α) : (Datum.ofOption f o).asOption g = o := by
  cases o with
  | none => rfl
  | some a =>
      rw [Datum.ofOption, Datum.asOption, h]
      exact present a

theorem asList_ofList {α : Type} {f : α → Datum} {g : Datum → α} (h : ∀ a, g (f a) = a)
    (items : List α) : (Datum.ofList f items).asList g = items := by
  rw [Datum.ofList, Datum.asList, List.map_map]
  exact List.map_id'' h items

end Rollout.Json
