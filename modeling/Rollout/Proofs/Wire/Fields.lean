import Mathlib.Data.List.Forall2
import Rollout.Proofs.Json.Members
import Rollout.Settings
import Rollout.Wire.Deployment
/-!
# Fields of records

A datum stands for a value of a type: a text for a string, a list of data for a list, and for a
record the data of its fields in order. The fields of a record type are listed with their names,
types and defaults, and data that were read stand for what is made of them.
-/

namespace Rollout.Wire

open Json Decimal

/-! ## Parts of records -/

instance : Wire String := ⟨.text, .text, Datum.asText⟩
instance : Wire Bool := ⟨.bool, .bool, Datum.asBool⟩
instance : Wire UInt16 :=
  ⟨.natural .w16, fun n => .natural n.toUInt64, fun d => d.asNatural.toUInt16⟩
instance : Wire UInt32 :=
  ⟨.natural .w32, fun n => .natural n.toUInt64, fun d => d.asNatural.toUInt32⟩
instance : Wire UInt64 := ⟨.natural .w64, .natural, Datum.asNatural⟩
instance : Wire Double := ⟨.double, .double, Datum.asDouble⟩
instance : Wire (Dict String) := ⟨.labels, .labels, Datum.asLabels⟩
instance : Wire Value := ⟨.any, .any, Datum.asValue⟩

instance {β : Type} [Wire β] : Wire (Option β) where
  shape := .optional (Wire.shape β)
  toDatum := .ofOption Wire.toDatum
  ofDatum := Datum.asOption Wire.ofDatum

/-- A token, of which an empty one is none. -/
structure Token where
  text : Option String

instance : Wire Token where
  shape := .optional .text
  toDatum t := .ofOption .text t.text
  ofDatum d := ⟨(d.asOption Datum.asText).bind Settings.nonEmpty⟩

/-- A type whose values data stand for. -/
class Part (β : Type) [Wire β] where
  Stands : Datum → β → Prop
  ofDatum_eq {d : Datum} {b : β} (h : Stands d b) : Wire.ofDatum d = b
  of_read {depth : Nat} {n : Node} {d : Datum} (h : (Wire.shape β).ofNode depth n = .ok d) :
    Stands d (Wire.ofDatum d)

instance : Part String where
  Stands d s := d = .text s
  ofDatum_eq := by
    rintro _ s rfl
    rfl
  of_read h := by
    obtain ⟨_, s, -, -, rfl⟩ := ofNode_text.mp h
    rfl

instance : Part Bool where
  Stands d b := d = .bool b
  ofDatum_eq := by
    rintro _ b rfl
    rfl
  of_read h := by
    obtain ⟨b, -, rfl⟩ := ofNode_bool.mp h
    rfl

instance : Part Double where
  Stands d x := d = .double x
  ofDatum_eq := by
    rintro _ x rfl
    rfl
  of_read h := by
    obtain ⟨_, _, -, -, rfl⟩ := ofNode_double.mp h
    rfl

instance : Part (Dict String) where
  Stands d labels := d = .labels labels
  ofDatum_eq := by
    rintro _ labels rfl
    rfl
  of_read h := by
    obtain ⟨_, _, labels, -, -, -, rfl⟩ := ofNode_labels.mp h
    rfl

instance : Part Value where
  Stands d v := d = .any v
  ofDatum_eq := by
    rintro _ v rfl
    rfl
  of_read h := by
    obtain ⟨v, -, rfl⟩ := ofNode_any.mp h
    rfl

theorem eq_natural_of_read {w : Width} {depth : Nat} {n : Node} {d : Datum}
    (h : (Shape.natural w).ofNode depth n = .ok d) :
    ∃ m, m.toNat < w.size ∧ d = .natural m := by
  obtain ⟨_, v, -, -, hread⟩ := ofNode_natural.mp h
  cases v with
  | natural m =>
      by_cases hm : m.toNat < w.size
      · rw [Width.read, if_pos hm] at hread
        cases hread
        exact ⟨m, hm, rfl⟩
      · rw [Width.read, if_neg hm] at hread
        cases hread
  | negative m => cases hread
  | real x => cases hread

theorem eq_text_of_read {names : List (String × String)} {depth : Nat} {n : Node} {d : Datum}
    (h : (Shape.variant names).ofNode depth n = .ok d) :
    ∃ name ∈ names.map Prod.snd, d = .text name := by
  have hvariant (s : String) (h : readVariant names s = .ok d) :
      ∃ name ∈ names.map Prod.snd, d = .text name := by
    unfold readVariant at h
    split at h
    · rename_i name hname
      cases h
      obtain ⟨before, after, hnames, -⟩ := List.lookup_eq_some_iff.mp hname
      exact ⟨name, by simp [hnames], rfl⟩
    · cases h
  rw [Shape.ofNode] at h
  unfold variantOfNode at h
  split at h
  · obtain ⟨s, -, hread⟩ := bind_eq_ok.mp h
    exact hvariant s hread
  · simp [bind_eq_ok] at h
  · simp only [bind_eq_ok, pure_eq_ok] at h
    obtain ⟨_, -, k, -, d', hread, _, -, _, -, rfl⟩ := h
    exact hvariant k hread
  all_goals cases h

instance : Part UInt16 where
  Stands d n := d = .natural n.toUInt64
  ofDatum_eq := by
    rintro _ n rfl
    exact UInt16.toUInt16_toUInt64 n
  of_read h := by
    obtain ⟨m, hm, rfl⟩ := eq_natural_of_read h
    refine congrArg Datum.natural (UInt64.toNat_inj.mp ?_)
    change m.toNat = m.toUInt16.toUInt64.toNat
    rw [UInt16.toNat_toUInt64, UInt64.toNat_toUInt16]
    exact (Nat.mod_eq_of_lt hm).symm

instance : Part UInt32 where
  Stands d n := d = .natural n.toUInt64
  ofDatum_eq := by
    rintro _ n rfl
    exact UInt32.toUInt32_toUInt64 n
  of_read h := by
    obtain ⟨m, hm, rfl⟩ := eq_natural_of_read h
    refine congrArg Datum.natural (UInt64.toNat_inj.mp ?_)
    change m.toNat = m.toUInt32.toUInt64.toNat
    rw [UInt32.toNat_toUInt64, UInt64.toNat_toUInt32]
    exact (Nat.mod_eq_of_lt hm).symm

instance : Part UInt64 where
  Stands d n := d = .natural n
  ofDatum_eq := by
    rintro _ n rfl
    rfl
  of_read h := by
    obtain ⟨m, -, rfl⟩ := eq_natural_of_read h
    rfl

instance : Part LogLevel where
  Stands d level := d = .text level.filter
  ofDatum_eq := by
    rintro _ level rfl
    cases level <;> rfl
  of_read h := by
    obtain ⟨name, hname, rfl⟩ := eq_text_of_read h
    simp only [List.map_cons, List.map_nil, List.mem_cons, List.not_mem_nil, or_false] at hname
    rcases hname with rfl | rfl | rfl | rfl | rfl | rfl <;> rfl

section

variable {β : Type} [Wire β] [Part β]

instance : Part (Option β) where
  Stands
    | d, none => d = .absent
    | d, some b => d ≠ .absent ∧ Part.Stands d b
  ofDatum_eq := by
    rintro d (_ | b) h
    · rw [h]
      rfl
    · obtain ⟨hpresent, hstands⟩ := h
      cases d <;> first
        | exact absurd rfl hpresent
        | exact congrArg some (Part.ofDatum_eq hstands)
  of_read := by
    intro depth n d h
    rcases ofNode_optional.mp h with ⟨-, rfl⟩ | ⟨-, hread⟩
    · rfl
    · have hstands := Part.of_read hread
      cases d <;> first
        | rfl
        | exact ⟨nofun, hstands⟩

instance : Part (List β) where
  Stands d bs := ∃ ds, d = .list ds ∧ List.Forall₂ Part.Stands ds bs
  ofDatum_eq := by
    rintro _ bs ⟨ds, rfl, h⟩
    change ds.map Wire.ofDatum = bs
    induction h with
    | nil => rfl
    | cons hd _ ih => rw [List.map_cons, ih, Part.ofDatum_eq hd]
  of_read := by
    intro depth n d h
    obtain ⟨inner, items, ds, -, -, hds, rfl⟩ := ofNode_list.mp h
    refine ⟨ds, rfl, ?_⟩
    change List.Forall₂ Part.Stands ds (ds.map Wire.ofDatum)
    clear h
    induction hds with
    | nil => exact .nil
    | cons hd _ ih => exact .cons (Part.of_read hd) ih

theorem stands_nil : Part.Stands (Wire.toDatum ([] : List β)) ([] : List β) := ⟨[], rfl, .nil⟩

end

instance : Part Token where
  Stands d t := d = .absent ∧ t = ⟨none⟩ ∨
    ∃ s, d = .text s ∧ t = ⟨if s.isEmpty then none else some s⟩
  ofDatum_eq := by
    rintro _ _ (⟨rfl, rfl⟩ | ⟨s, rfl, rfl⟩)
    · rfl
    · rfl
  of_read := by
    intro depth n d h
    rcases ofNode_optional.mp h with ⟨-, rfl⟩ | ⟨-, hread⟩
    · exact .inl ⟨rfl, rfl⟩
    · obtain ⟨_, s, -, -, rfl⟩ := ofNode_text.mp hread
      exact .inr ⟨s, rfl, rfl⟩

/-! ## Fields -/

/-- A field of a record: the name of its member, its type, the part of the record that it is, and
its value where there is no member. -/
structure Field (α : Type) where
  name : String
  type : Type
  wire : Wire type
  part : Part type
  get : α → type
  fallback : Option type
  sparse : Bool
  stands : ∀ b, fallback = some b → part.Stands (wire.toDatum b) b

namespace Field

variable {α β : Type} [wire : Wire β] [part : Part β]

def required (name : String) (get : α → β) : Field α :=
  ⟨name, β, wire, part, get, none, false, nofun⟩

def default (name : String) (get : α → β) (b : β) (h : Part.Stands (Wire.toDatum b) b) :
    Field α :=
  ⟨name, β, wire, part, get, some b, false, fun _ hb => Option.some.inj hb ▸ h⟩

def sparsely (name : String) (get : α → β) (b : β) (h : Part.Stands (Wire.toDatum b) b) :
    Field α :=
  ⟨name, β, wire, part, get, some b, true, fun _ hb => Option.some.inj hb ▸ h⟩

/-- An optional field, which is left out when it is nothing. -/
def maybe (name : String) (get : α → Option β) : Field α :=
  sparsely name get none rfl

variable (f : Field α)

def shape : Shape := f.wire.shape

def ofDatum (d : Datum) : f.type := f.wire.ofDatum d

/-- The datum stands for the field of a record. -/
def Stands (d : Datum) (a : α) : Prop := f.part.Stands d (f.get a)

/-- The field of a record as the members of an object have it: the decoded value of the only member
with its name, or its default where there is no such member. -/
inductive ReadFrom (depth : Nat) (members : List (Literal × Node)) (a : α) : Prop where
  | found {n : Node} {d : Datum} (only : valuesNamed f.name members = [n])
      (read : f.shape.ofNode depth n = .ok d) (stands : f.Stands d a)
  | missing (absent : valuesNamed f.name members = []) (default : f.fallback = some (f.get a))

end Field

/-- The row of some fields. -/
def rowOf {α : Type} : List (Field α) → Row
  | [] => .nil
  | f :: rest => .cons f.name f.shape (f.fallback.map f.wire.toDatum) f.sparse (rowOf rest)

section

variable {α : Type} {fields : List (Field α)} {depth : Nat} {members : List (Literal × Node)}
  {ds : List Datum} {a : α}

theorem length_of_stems (h : (rowOf fields).Stems depth ds) : ds.length = fields.length := by
  induction fields generalizing ds with
  | nil =>
      cases h
      rfl
  | cons f rest ih =>
      cases h with
      | cons _ later => rw [List.length_cons, ih later, List.length_cons]

theorem readFrom_of_fieldsOf (h : (rowOf fields).FieldsOf depth members ds)
    (hget : List.Forall₂ (fun f d => f.get a = f.ofDatum d) fields ds) :
    ∀ f ∈ fields, f.ReadFrom depth members a := by
  -- Field by field: what was found for it is told from its datum, or the datum is its default.
  induction hget with
  | nil => exact nofun
  | @cons f d rest ds hfirst _ ih =>
      cases h with
      | cons field later =>
          refine List.forall_mem_cons.mpr ⟨?_, ih later⟩
          generalize hvalues : valuesNamed f.name members = values at field
          cases field with
          | found read =>
              refine .found hvalues read ?_
              unfold Field.Stands
              rw [hfirst]
              exact f.part.of_read read
          | missing default =>
              obtain ⟨b, hb, rfl⟩ := Option.map_eq_some_iff.mp default
              have heq : f.ofDatum (f.wire.toDatum b) = b := f.part.ofDatum_eq (f.stands b hb)
              exact .missing hvalues (by rw [hb, hfirst, heq])

theorem exists_fieldsOf (h : ∀ f ∈ fields, f.ReadFrom depth members a) :
    ∃ ds, (rowOf fields).FieldsOf depth members ds ∧
      List.Forall₂ (fun f d => f.ofDatum d = f.get a) fields ds := by
  induction fields with
  | nil => exact ⟨[], .nil, .nil⟩
  | cons f rest ih =>
      obtain ⟨hfirst, hrest⟩ := List.forall_mem_cons.mp h
      obtain ⟨ds, hds, hget⟩ := ih hrest
      cases hfirst with
      | found only read stands =>
          exact ⟨_, .cons (only ▸ .found read) hds, .cons (f.part.ofDatum_eq stands) hget⟩
      | missing absent default =>
          have hfallback : f.fallback.map f.wire.toDatum = some (f.wire.toDatum (f.get a)) := by
            rw [default]
            rfl
          exact ⟨_, .cons (absent ▸ .missing hfallback) hds,
            .cons (f.part.ofDatum_eq (f.stands _ default)) hget⟩

theorem get_eq_of_forall₂ {b : α}
    (hb : List.Forall₂ (fun f d => f.get b = f.ofDatum d) fields ds)
    (ha : List.Forall₂ (fun f d => f.ofDatum d = f.get a) fields ds) :
    ∀ f ∈ fields, f.get b = f.get a := by
  induction hb with
  | nil => exact nofun
  | cons hfirst _ ih =>
      cases ha with
      | cons hfirst' hrest' => exact List.forall_mem_cons.mpr ⟨hfirst.trans hfirst', ih hrest'⟩

theorem stands_of_stems (h : (rowOf fields).Stems depth ds)
    (hget : List.Forall₂ (fun f d => f.get a = f.ofDatum d) fields ds) :
    List.Forall₂ (fun f d => f.Stands d a) fields ds := by
  induction hget with
  | nil => exact .nil
  | @cons f d rest ds hfirst _ ih =>
      cases h with
      | cons field later =>
          refine .cons ?_ (ih later)
          unfold Field.Stands
          rw [hfirst]
          rcases field with ⟨n, read⟩ | default
          · exact f.part.of_read read
          · obtain ⟨b, hb, rfl⟩ := Option.map_eq_some_iff.mp default
            have hstands := f.stands b hb
            have heq : f.ofDatum (f.wire.toDatum b) = b := f.part.ofDatum_eq hstands
            rwa [heq]

end

/-- A type whose values are records: they are told apart by their fields, and each field is that of
its datum. -/
class Record (α : Type) [Wire α] where
  name : String
  fields : List (Field α)
  shape_eq : Wire.shape α = .record name (rowOf fields) := by rfl
  distinct : (rowOf fields).distinct = true := by decide
  get_ofDatum (ds : List Datum) (h : ds.length = fields.length) :
    List.Forall₂ (fun f d => f.get (Wire.ofDatum (.record ds)) = f.ofDatum d) fields ds
  ext : ∀ a b : α, (∀ f ∈ fields, f.get a = f.get b) → a = b := by
    rintro ⟨⟩ ⟨⟩ h
    simpa [Field.required, Field.default, Field.maybe, Field.sparsely] using h

section

variable {α : Type} [Wire α] [Record α] {ds : List Datum} {a : α}

theorem Record.ofDatum_eq (h : List.Forall₂ (fun f d => f.ofDatum d = f.get a) fields ds) :
    Wire.ofDatum (.record ds) = a := by
  have hget := Record.get_ofDatum (α := α) ds h.length_eq.symm
  exact Record.ext _ a (get_eq_of_forall₂ hget h)

instance : Part α where
  Stands d a := ∃ ds, d = .record ds ∧ List.Forall₂ (fun f d => f.Stands d a) Record.fields ds
  ofDatum_eq := by
    rintro _ a ⟨ds, rfl, h⟩
    exact Record.ofDatum_eq (h.imp fun f d hstands => f.part.ofDatum_eq hstands)
  of_read := by
    intro depth n d h
    rw [Record.shape_eq] at h
    obtain ⟨inner, ds, -, rfl, hstems⟩ := stems_of_ofNode Record.distinct h
    have hget := Record.get_ofDatum (α := α) ds (length_of_stems hstems)
    exact ⟨ds, rfl, stands_of_stems hstems hget⟩

end

end Rollout.Wire
