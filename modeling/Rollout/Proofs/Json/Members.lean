import Rollout.Proofs.Json.Flawless
import Rollout.Proofs.Json.Reading
/-!
# Members of records

What a record is read from when it is given as an object: every key is a text, every value is
flawless, and each field is the decoded value of the only member with its name, or what stands for
it when there is none. Neither the order of the members nor a member without a field matters.
-/

namespace Rollout.Json

/-! ## Names -/

/-- The value of a member, if the member has the name. -/
def valueNamed? (name : String) (m : Literal × Node) : Option Node :=
  match m.1.text with
  | .ok key => if key = name then some m.2 else none
  | .error _ => none

/-- The values of the members with a name, in order. -/
def valuesNamed (name : String) (members : List (Literal × Node)) : List Node :=
  members.filterMap (valueNamed? name)

theorem valuesNamed_append (name : String) (members more : List (Literal × Node)) :
    valuesNamed name (members ++ more) = valuesNamed name members ++ valuesNamed name more :=
  List.filterMap_append

theorem valuesNamed_cons_self {key : Literal} {name : String} (h : key.text = .ok name)
    (value : Node) (members : List (Literal × Node)) :
    valuesNamed name ((key, value) :: members) = value :: valuesNamed name members := by
  simp [valuesNamed, valueNamed?, h]

theorem valuesNamed_cons_of_ne {key : Literal} {k name : String} (h : key.text = .ok k)
    (hne : k ≠ name) (value : Node) (members : List (Literal × Node)) :
    valuesNamed name ((key, value) :: members) = valuesNamed name members := by
  simp [valuesNamed, valueNamed?, h, hne]

mutual

/-- No record has two fields of one name, nor one in common with a record whose members it holds. -/
def Shape.distinct : Shape → Bool
  | .optional shape | .list shape => shape.distinct
  | .record _ row => row.distinct
  | .flattened _ _ innerRow row =>
    innerRow.distinct && row.distinct && innerRow.names.all (· ∉ row.names)
  | .text | .bool | .natural _ | .double | .labels | .any | .variant _ => true

def Row.distinct : Row → Bool
  | .nil => true
  | .cons name shape _ _ row => name ∉ row.names && shape.distinct && row.distinct

end

theorem Row.distinct_cons {name : String} {shape : Shape} {fallback : Option Datum} {sparse : Bool}
    {row : Row} : (Row.cons name shape fallback sparse row).distinct = true ↔
      name ∉ row.names ∧ shape.distinct = true ∧ row.distinct = true := by
  simp [Row.distinct, and_assoc]

theorem Shape.distinct_flattened {name inner : String} {innerRow row : Row} :
    (Shape.flattened name inner innerRow row).distinct = true ↔
      innerRow.distinct = true ∧ row.distinct = true ∧
        ∀ k ∈ innerRow.names, k ∉ row.names := by
  simp [Shape.distinct, and_assoc]

/-! ## Slots -/

/-- What a slot holds after members with the given values. -/
inductive SlotOf (depth : Nat) (shape : Shape) : List Node → Option Datum → Prop where
  | empty : SlotOf depth shape [] none
  | filled {n : Node} {d : Datum} (read : shape.ofNode depth n = .ok d) :
      SlotOf depth shape [n] (some d)

/-- The slots of a row after some members. -/
inductive Row.Filled (depth : Nat) (members : List (Literal × Node)) :
    Row → List (Option Datum) → Prop where
  | nil : Filled depth members .nil []
  | cons {name : String} {shape : Shape} {fallback : Option Datum} {sparse : Bool} {row : Row}
      {slot : Option Datum} {slots : List (Option Datum)}
      (first : SlotOf depth shape (valuesNamed name members) slot)
      (later : Filled depth members row slots) :
      Filled depth members (.cons name shape fallback sparse row) (slot :: slots)

variable {depth : Nat} {members : List (Literal × Node)} {row : Row}
  {slots out : List (Option Datum)}

theorem SlotOf.unique {shape : Shape} {values : List Node} {slot slot' : Option Datum}
    (h : SlotOf depth shape values slot) (h' : SlotOf depth shape values slot') : slot = slot' := by
  cases h with
  | empty =>
      cases h'
      rfl
  | filled read =>
      cases h' with
      | filled read' =>
          rw [read] at read'
          cases read'
          rfl

namespace Row.Filled

theorem unique (h : Filled depth members row slots) (h' : Filled depth members row out) :
    slots = out := by
  induction h generalizing out with
  | nil =>
      cases h'
      rfl
  | cons first later ih =>
      cases h' with
      | cons first' later' => rw [first.unique first', ih later']

theorem congr {others : List (Literal × Node)}
    (hnames : ∀ name ∈ row.names, valuesNamed name members = valuesNamed name others)
    (h : Filled depth members row slots) : Filled depth others row slots := by
  induction h with
  | nil => exact .nil
  | @cons name _ _ _ row _ _ first later ih =>
      have hname := hnames name List.mem_cons_self
      refine .cons (hname ▸ first) (ih fun name hmem => hnames name (List.mem_cons_of_mem _ hmem))

theorem of_append {more : List (Literal × Node)} (h : Filled depth (members ++ more) row slots) :
    ∃ earlier, Filled depth members row earlier := by
  induction h with
  | nil => exact ⟨[], .nil⟩
  | @cons name shape _ _ _ slot _ first later ih =>
      obtain ⟨earlier, hearlier⟩ := ih
      rw [valuesNamed_append] at first
      rcases hvalues : valuesNamed name members with _ | ⟨n, rest⟩
      · exact ⟨none :: earlier, .cons (hvalues ▸ .empty) hearlier⟩
      · rw [hvalues, List.cons_append] at first
        generalize hlist : rest ++ valuesNamed name more = list at first
        cases first with
        | @filled _ d read =>
            obtain ⟨rfl, -⟩ := List.append_eq_nil_iff.mp hlist
            exact ⟨some d :: earlier, .cons (hvalues ▸ .filled read) hearlier⟩

end Row.Filled

theorem Row.filled_unfilled (row : Row) : row.Filled depth [] row.unfilled := by
  induction row using Row.rec (motive_1 := fun _ => True) with
  | nil => exact .nil
  | cons _ _ _ _ _ _ ih => exact .cons .empty ih
  | _ => trivial

theorem putNode_eq_ok {key : Literal} {k : String} (hkey : key.text = .ok k) {n : Node}
    (hrow : row.distinct = true) (h : row.Filled depth members slots) :
    row.putNode depth k n slots = .ok out ↔
      n.skipped = none ∧ row.Filled depth (members ++ [(key, n)]) out := by
  have hother {name : String} (hne : k ≠ name) :
      valuesNamed name (members ++ [(key, n)]) = valuesNamed name members := by
    rw [valuesNamed_append, valuesNamed_cons_of_ne hkey hne]
    exact List.append_nil _
  -- Down the row to the field of this name, which no other field has; without one it is skipped.
  induction h generalizing out with
  | nil =>
      simp only [Row.putNode, bind_eq_ok, reject_eq_ok, pure_eq_ok]
      constructor
      · rintro ⟨_, hskipped, rfl⟩
        exact ⟨hskipped, .nil⟩
      · rintro ⟨hskipped, hout⟩
        cases hout
        exact ⟨(), hskipped, rfl⟩
  | @cons name shape fallback sparse row slot slots first later ih =>
      obtain ⟨hname, hshape, hlater⟩ := Row.distinct_cons.mp hrow
      unfold Row.putNode
      by_cases hk : k = name
      · subst hk
        have hvalues : valuesNamed k (members ++ [(key, n)]) = valuesNamed k members ++ [n] := by
          rw [valuesNamed_append, valuesNamed_cons_self hkey]
          rfl
        have hslots : row.Filled depth (members ++ [(key, n)]) slots :=
          later.congr fun name hmem => (hother fun heq => hname (heq ▸ hmem)).symm
        rw [if_pos rfl]
        generalize hold : valuesNamed k members = old at first hvalues
        cases first with
        | filled read =>
            refine ⟨fun hput => (by cases hput), ?_⟩
            rintro ⟨-, hout⟩
            cases hout with
            | cons first' _ =>
                rw [hvalues] at first'
                cases first'
        | empty =>
            simp only [Option.isSome_none, Bool.false_eq_true, if_false, map_eq_ok]
            constructor
            · rintro ⟨d, hd, rfl⟩
              exact ⟨shape.skipped_of_ofNode hd, .cons (hvalues ▸ .filled hd) hslots⟩
            · rintro ⟨-, hout⟩
              cases hout with
              | cons first' later' =>
                  rw [hvalues] at first'
                  cases first' with
                  | filled hd => exact ⟨_, hd, by rw [hslots.unique later']⟩
      · rw [if_neg hk]
        simp only [map_eq_ok, ih hlater]
        constructor
        · rintro ⟨slots', ⟨hskipped, hout⟩, rfl⟩
          exact ⟨hskipped, .cons (hother hk ▸ first) hout⟩
        · rintro ⟨hskipped, hout⟩
          cases hout with
          | cons first' later' =>
              rw [hother hk] at first'
              exact ⟨_, ⟨hskipped, later'⟩, by rw [first.unique first']⟩

theorem readMembersWith_putNode {more : List (Literal × Node)} (hrow : row.distinct = true)
    (h : row.Filled depth members slots) :
    readMembersWith (fun slots key n => row.putNode depth key n slots) slots more = .ok out ↔
      (∀ m ∈ more, (∃ k, m.1.text = .ok k) ∧ m.2.skipped = none) ∧
        row.Filled depth (members ++ more) out := by
  induction more generalizing members slots with
  | nil =>
      rw [List.append_nil]
      constructor
      · intro hread
        cases hread
        exact ⟨fun m hm => absurd hm List.not_mem_nil, h⟩
      · rintro ⟨-, hout⟩
        rw [h.unique hout]
        rfl
  | cons m more ih =>
      obtain ⟨key, n⟩ := m
      have happend : members ++ (key, n) :: more = (members ++ [(key, n)]) ++ more := by simp
      rw [readMembersWith_cons, happend, List.forall_mem_cons]
      constructor
      · rintro ⟨k, mid, hkey, hput, hread⟩
        obtain ⟨hskipped, hmid⟩ := (putNode_eq_ok hkey hrow h).mp hput
        obtain ⟨hmore, hout⟩ := (ih hmid).mp hread
        exact ⟨⟨⟨⟨k, hkey⟩, hskipped⟩, hmore⟩, hout⟩
      · rintro ⟨⟨⟨⟨k, hkey⟩, hskipped⟩, hmore⟩, hout⟩
        obtain ⟨mid, hmid⟩ := hout.of_append
        exact ⟨k, mid, hkey, (putNode_eq_ok hkey hrow h).mpr ⟨hskipped, hmid⟩,
          (ih hmid).mpr ⟨hmore, hout⟩⟩

/-! ## Fields -/

/-- A field from the values that have its name: the decoded value of the only one, or what stands
for it when there is none. -/
inductive FieldOf (depth : Nat) (shape : Shape) (fallback : Option Datum) :
    List Node → Datum → Prop where
  | found {n : Node} {d : Datum} (read : shape.ofNode depth n = .ok d) :
      FieldOf depth shape fallback [n] d
  | missing {d : Datum} (default : fallback = some d) : FieldOf depth shape fallback [] d

/-- The fields of a record from its members. -/
inductive Row.FieldsOf (depth : Nat) (members : List (Literal × Node)) :
    Row → List Datum → Prop where
  | nil : FieldsOf depth members .nil []
  | cons {name : String} {shape : Shape} {fallback : Option Datum} {sparse : Bool} {row : Row}
      {d : Datum} {fields : List Datum}
      (field : FieldOf depth shape fallback (valuesNamed name members) d)
      (later : FieldsOf depth members row fields) :
      FieldsOf depth members (.cons name shape fallback sparse row) (d :: fields)

theorem Row.FieldsOf.congr {others : List (Literal × Node)}
    (hnames : ∀ name ∈ row.names, valuesNamed name members = valuesNamed name others)
    {fields : List Datum} (h : row.FieldsOf depth members fields) :
    row.FieldsOf depth others fields := by
  induction h with
  | nil => exact .nil
  | @cons name _ _ _ _ _ _ field later ih =>
      have hname := hnames name List.mem_cons_self
      exact .cons (hname ▸ field) (ih fun name hmem => hnames name (List.mem_cons_of_mem _ hmem))

theorem fieldsOf_iff_finish {fields : List Datum} : row.FieldsOf depth members fields ↔
    ∃ slots, row.Filled depth members slots ∧ row.finish slots = .ok fields := by
  constructor
  · intro h
    induction h with
    | nil => exact ⟨[], .nil, rfl⟩
    | @cons name shape fallback _ _ d _ field _ ih =>
        obtain ⟨slots, hslots, hfinish⟩ := ih
        generalize hvalues : valuesNamed name members = values at field
        cases field with
        | found read =>
            refine ⟨some d :: slots, .cons (hvalues ▸ .filled read) hslots, ?_⟩
            simp only [Row.finish, List.head?_cons, List.tail_cons, hfinish]
            rfl
        | missing default =>
            refine ⟨none :: slots, .cons (hvalues ▸ .empty) hslots, ?_⟩
            simp only [Row.finish, List.head?_cons, List.tail_cons, hfinish, default]
            rfl
  · rintro ⟨slots, hslots, hfinish⟩
    induction hslots generalizing fields with
    | nil =>
        cases hfinish
        exact .nil
    | @cons name shape fallback _ _ slot slots first later ih =>
        generalize hvalues : valuesNamed name members = values at first
        cases first with
        | filled read =>
            obtain ⟨fields, hfields, rfl⟩ := map_eq_ok.mp hfinish
            exact .cons (hvalues ▸ .found read) (ih hfields)
        | empty =>
            cases fallback with
            | none => cases hfinish
            | some d =>
                obtain ⟨fields, hfields, rfl⟩ := map_eq_ok.mp hfinish
                exact .cons (hvalues ▸ .missing rfl) (ih hfields)

/-- A record is read from an object whose keys are texts, whose values are flawless, and that has
its fields. -/
theorem ofNode_record_object {name : String} {d : Datum} (hrow : row.distinct = true) :
    (Shape.record name row).ofNode depth (.object members .closed) = .ok d ↔
      ∃ inner fields, enter depth = .ok inner ∧ d = .record fields ∧
        (∀ m ∈ members, (∃ k, m.1.text = .ok k) ∧ m.2.skipped = none) ∧
        row.FieldsOf inner members fields := by
  rw [ofNode_record]
  constructor
  · rintro ⟨inner, fields, hinner, rfl, ⟨_, slots, hn, hslots, hfinish⟩ | ⟨_, hn, -⟩⟩
    · cases hn
      obtain ⟨hmembers, hfilled⟩ := (readMembersWith_putNode hrow row.filled_unfilled).mp hslots
      have hfields := fieldsOf_iff_finish.mpr ⟨slots, hfilled, hfinish⟩
      exact ⟨inner, fields, hinner, rfl, hmembers, hfields⟩
    · cases hn
  · rintro ⟨inner, fields, hinner, rfl, hmembers, hfields⟩
    obtain ⟨slots, hfilled, hfinish⟩ := fieldsOf_iff_finish.mp hfields
    exact ⟨inner, fields, hinner, rfl, .inl ⟨members, slots, rfl,
      (readMembersWith_putNode hrow row.filled_unfilled).mpr ⟨hmembers, hfilled⟩, hfinish⟩⟩

/-! ## Where fields come from -/

/-- Every field was read through its shape or stands for a missing member. -/
inductive Row.Stems (depth : Nat) : Row → List Datum → Prop where
  | nil : Stems depth .nil []
  | cons {name : String} {shape : Shape} {fallback : Option Datum} {sparse : Bool} {row : Row}
      {d : Datum} {fields : List Datum}
      (field : (∃ n, shape.ofNode depth n = .ok d) ∨ fallback = some d)
      (later : Stems depth row fields) :
      Stems depth (.cons name shape fallback sparse row) (d :: fields)

theorem Row.FieldsOf.stems {fields : List Datum} (h : row.FieldsOf depth members fields) :
    row.Stems depth fields := by
  induction h with
  | nil => exact .nil
  | @cons name _ _ _ _ _ _ field _ ih =>
      refine .cons ?_ ih
      generalize valuesNamed name members = values at field
      cases field with
      | found read => exact .inl ⟨_, read⟩
      | missing default => exact .inr default

theorem Row.stems_of_nodesInOrder {described : String} {ending : Ending} {k : Nat}
    {items rest : List Node} {fields : List Datum}
    (h : row.nodesInOrder depth described ending k items = .ok (fields, rest)) :
    row.Stems depth fields := by
  induction row using Row.rec (motive_1 := fun _ => True) generalizing k items fields with
  | nil =>
      cases h
      exact .nil
  | cons name shape fallback sparse row _ ih =>
      cases items with
      | nil =>
          obtain ⟨_, -, hread⟩ := bind_eq_ok.mp h
          cases fallback with
          | none => cases hread
          | some d =>
              obtain ⟨_, hlater, heq⟩ := bind_eq_ok.mp hread
              cases heq
              exact .cons (.inr rfl) (ih hlater)
      | cons item items =>
          simp only [Row.nodesInOrder, bind_eq_ok] at h
          obtain ⟨d, hd, _, hlater, heq⟩ := h
          cases heq
          exact .cons (.inl ⟨item, hd⟩) (ih hlater)
  | _ => trivial

theorem stems_of_ofNode {name : String} {n : Node} {d : Datum} (hrow : row.distinct = true)
    (h : (Shape.record name row).ofNode depth n = .ok d) :
    ∃ inner fields, enter depth = .ok inner ∧ d = .record fields ∧
      row.Stems inner fields := by
  have hrecord := h
  obtain ⟨inner, fields, hinner, rfl,
    ⟨members, slots, rfl, -⟩ | ⟨items, rfl, hitems⟩⟩ :=
    ofNode_record.mp hrecord
  · obtain ⟨inner, fields, hinner, hd, -, hfields⟩ := (ofNode_record_object hrow).mp h
    exact ⟨inner, fields, hinner, hd, hfields.stems⟩
  · exact ⟨inner, fields, hinner, rfl, Row.stems_of_nodesInOrder hitems⟩

end Rollout.Json
