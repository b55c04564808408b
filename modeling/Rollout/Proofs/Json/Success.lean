import Mathlib.Data.List.Forall2
import Rollout.Json.Wire
/-!
# When reading succeeds

Each step of reading a datum, said as what its success means. A shape is read from a tree of its
kind alone, and a list or an object is read only up to its bracket.
-/

namespace Rollout.Json

variable {ε α β σ : Type}

/-! ## Steps -/

theorem bind_eq_ok {x : Except ε α} {f : α → Except ε β} {b : β} :
    (x >>= f) = .ok b ↔ ∃ a, x = .ok a ∧ f a = .ok b := by
  cases x with
  | error e => exact ⟨nofun, nofun⟩
  | ok a => exact ⟨fun h => ⟨a, rfl, h⟩, fun ⟨_, ha, h⟩ => by cases ha; exact h⟩

theorem map_eq_ok {x : Except ε α} {f : α → β} {b : β} :
    (f <$> x) = .ok b ↔ ∃ a, x = .ok a ∧ f a = b := by
  cases x with
  | error e => exact ⟨nofun, nofun⟩
  | ok a =>
      constructor
      · intro h
        cases h
        exact ⟨a, rfl, rfl⟩
      · rintro ⟨_, ha, rfl⟩
        cases ha
        rfl

theorem pure_eq_ok {a b : α} : (pure a : Except ε α) = .ok b ↔ a = b :=
  ⟨fun h => by cases h; rfl, fun h => h ▸ rfl⟩

theorem ok_unique {x : Except ε α} {a b : α} (h : x = .ok a) (h' : x = .ok b) : a = b :=
  Except.ok.inj (h.symm.trans h')

theorem eq_ok_of_toOption {x : Except ε α} {a : α} (h : x.toOption = some a) : x = .ok a := by
  cases x <;> cases h
  rfl

theorem mapM_eq_ok_iff {f : α → Except ε β} {as : List α} {bs : List β} :
    as.mapM f = .ok bs ↔ List.Forall₂ (fun a b => f a = .ok b) as bs := by
  induction as generalizing bs with
  | nil =>
      rw [List.mapM_nil, List.forall₂_nil_left_iff]
      exact ⟨fun h => (Except.ok.inj h).symm, fun h => h ▸ rfl⟩
  | cons a as ih =>
      rw [List.mapM_cons, List.forall₂_cons_left_iff, bind_eq_ok]
      constructor
      · rintro ⟨b, hfirst, htail⟩
        obtain ⟨rest, hrest, hdone⟩ := bind_eq_ok.mp htail
        exact ⟨b, rest, hfirst, ih.mp hrest, (Except.ok.inj hdone).symm⟩
      · rintro ⟨b, rest, hfirst, hrest, rfl⟩
        exact ⟨b, hfirst, bind_eq_ok.mpr ⟨rest, ih.mpr hrest, rfl⟩⟩

theorem reject_eq_ok {o : Option SyntaxFault} {u : Unit} : reject o = .ok u ↔ o = none := by
  cases o with
  | none => exact ⟨fun _ => rfl, fun _ => rfl⟩
  | some fault => exact ⟨nofun, nofun⟩

theorem orMalformed_eq_ok {x : Except SyntaxFault α} {a : α} :
    orMalformed x = .ok a ↔ x = .ok a := by
  cases x with
  | error fault => exact ⟨nofun, nofun⟩
  | ok b => exact ⟨fun h => by cases h; rfl, fun h => by cases h; rfl⟩

theorem enter_eq_ok {depth inner : Nat} :
    enter depth = .ok inner ↔ depth = inner + 1 ∧ 0 < inner := by
  unfold enter
  split
  · exact ⟨nofun, fun h => by omega⟩
  · constructor
    · intro h
      cases h
      omega
    · rintro ⟨rfl, _⟩
      rfl

theorem mismatch_ne_ok {n : Node} {wanted : String} {a : α} :
    (n.mismatch wanted : Except Fault α) ≠ .ok a := by
  unfold Node.mismatch
  split <;> nofun

theorem Value.mismatch_ne_ok {v : Value} {wanted : String} {a : α} :
    (v.mismatch wanted : Except Fault α) ≠ .ok a := nofun

theorem Ending.keptInArray_eq_none {ending : Ending} :
    ending.keptInArray = none ↔ ending = .closed := by
  cases ending <;> simp [keptInArray]

theorem Ending.keptInObject_eq_none {ending : Ending} :
    ending.keptInObject = none ↔ ending = .closed := by
  cases ending <;> simp [keptInObject]

theorem leftOver_eq_none {items : List Node} {ending : Ending} :
    leftOver items ending = none ↔ items = [] ∧ ending = .closed := by
  unfold leftOver
  cases items with
  | nil => cases ending <;> simp [Ending.left]
  | cons _ _ => simp

theorem expectNull_eq_ok {n : Node} {u : Unit} : expectNull n = .ok u ↔ n = .null := by
  unfold expectNull
  split
  · exact ⟨fun _ => rfl, fun _ => rfl⟩
  · rename_i hn
    exact ⟨fun h => absurd h mismatch_ne_ok, fun h => absurd h hn⟩

theorem endOfVariant_eq_none {members : List (Literal × Node)} {ending : Ending} :
    endOfVariant members ending = none ↔ members = [] ∧ ending = .closed := by
  unfold endOfVariant
  split
  · exact ⟨fun _ => ⟨rfl, rfl⟩, fun _ => rfl⟩
  · exact ⟨nofun, nofun⟩
  · rename_i hclosed _
    exact ⟨nofun, fun h => absurd h.2 (hclosed h.1)⟩

theorem readEach_eq_ok {read : α → Except Fault β} {as : List α} {bs : List β} :
    readEach read as = .ok bs ↔ List.Forall₂ (fun a b => read a = .ok b) as bs := by
  induction as generalizing bs with
  | nil =>
      constructor
      · intro h
        cases h
        exact .nil
      · intro h
        cases h
        rfl
  | cons a as ih =>
      simp only [readEach, bind_eq_ok, pure_eq_ok, ih]
      constructor
      · rintro ⟨b, hb, later, hlater, rfl⟩
        exact .cons hb hlater
      · intro h
        cases h with
        | cons hb hlater => exact ⟨_, hb, _, hlater, rfl⟩

theorem readMembersWith_cons {step : σ → String → Node → Except Fault σ} {st out : σ}
    {key : Literal} {value : Node} {members : List (Literal × Node)} :
    readMembersWith step st ((key, value) :: members) = .ok out ↔
      ∃ k mid, key.text = .ok k ∧ step st k value = .ok mid ∧
        readMembersWith step mid members = .ok out := by
  simp only [readMembersWith, bind_eq_ok, orMalformed_eq_ok]
  constructor
  · rintro ⟨k, hk, mid, hmid, hout⟩
    exact ⟨k, mid, hk, hmid, hout⟩
  · rintro ⟨k, mid, hk, hmid, hout⟩
    exact ⟨k, hk, mid, hmid, hout⟩

/-! ## Trees that are kept -/

theorem keepItems_eq_ok {depth : Nat} {items : List Node} {vs : List Value} :
    keepItems depth items = .ok vs ↔
      List.Forall₂ (fun (n : Node) v => n.keep depth = .ok v) items vs := by
  induction items generalizing vs with
  | nil =>
      constructor
      · intro h
        cases h
        exact .nil
      · intro h
        cases h
        rfl
  | cons item items ih =>
      simp only [keepItems, bind_eq_ok, pure_eq_ok, ih]
      constructor
      · rintro ⟨v, hv, later, hlater, rfl⟩
        exact .cons hv hlater
      · intro h
        cases h with
        | cons hv hlater => exact ⟨_, hv, _, hlater, rfl⟩

theorem keepMembers_eq_ok {depth : Nat} {members : List (Literal × Node)}
    {vs : List (String × Value)} :
    keepMembers depth members = .ok vs ↔
      List.Forall₂ (fun m v => m.1.text = .ok v.1 ∧ m.2.keep depth = .ok v.2) members vs := by
  induction members generalizing vs with
  | nil =>
      constructor
      · intro h
        cases h
        exact .nil
      · intro h
        cases h
        rfl
  | cons m members ih =>
      obtain ⟨key, value⟩ := m
      simp only [keepMembers, bind_eq_ok, orMalformed_eq_ok, pure_eq_ok, ih]
      constructor
      · rintro ⟨k, hk, v, hv, later, hlater, rfl⟩
        exact .cons ⟨hk, hv⟩ hlater
      · intro h
        cases h with
        | cons first hlater => exact ⟨_, first.1, _, first.2, _, hlater, rfl⟩

theorem keep_array {depth : Nat} {items : List Node} {ending : Ending} {v : Value} :
    (Node.array items ending).keep depth = .ok v ↔ ∃ inner vs, enter depth = .ok inner ∧
      keepItems inner items = .ok vs ∧ ending = .closed ∧ v = .array vs := by
  simp only [Node.keep, bind_eq_ok, reject_eq_ok, pure_eq_ok, Ending.keptInArray_eq_none]
  constructor
  · rintro ⟨inner, hinner, vs, hvs, _, rfl, rfl⟩
    exact ⟨inner, vs, hinner, hvs, rfl, rfl⟩
  · rintro ⟨inner, vs, hinner, hvs, rfl, rfl⟩
    exact ⟨inner, hinner, vs, hvs, (), rfl, rfl⟩

theorem keep_object {depth : Nat} {members : List (Literal × Node)} {ending : Ending}
    {v : Value} : (Node.object members ending).keep depth = .ok v ↔
      ∃ inner vs, enter depth = .ok inner ∧ keepMembers inner members = .ok vs ∧
        ending = .closed ∧ v = .object vs := by
  simp only [Node.keep, bind_eq_ok, reject_eq_ok, pure_eq_ok, Ending.keptInObject_eq_none]
  constructor
  · rintro ⟨inner, hinner, vs, hvs, _, rfl, rfl⟩
    exact ⟨inner, vs, hinner, hvs, rfl, rfl⟩
  · rintro ⟨inner, vs, hinner, hvs, rfl, rfl⟩
    exact ⟨inner, hinner, vs, hvs, (), rfl, rfl⟩

theorem keep_string {depth : Nat} {l : Literal} {v : Value} :
    (Node.string l).keep depth = .ok v ↔ ∃ s, l.text = .ok s ∧ v = .string s := by
  simp only [Node.keep, map_eq_ok, orMalformed_eq_ok, eq_comm (b := v)]

theorem keep_number {depth : Nat} {n : Numeral} {v : Value} :
    (Node.number n).keep depth = .ok v ↔ ∃ x, n.value = .ok x ∧ v = .number x := by
  simp only [Node.keep, map_eq_ok, orMalformed_eq_ok, eq_comm (b := v)]

namespace Node

variable {n : Node} {depth : Nat}

theorem eq_null_of_keep (h : n.keep depth = .ok .null) : n = .null := by
  cases n with
  | null => rfl
  | bool _ | broken _ => cases h
  | number m => simp [keep_number] at h
  | string l => simp [keep_string] at h
  | array items ending => simp [keep_array] at h
  | object members ending => simp [keep_object] at h

theorem eq_bool_of_keep {b : Bool} (h : n.keep depth = .ok (.bool b)) : n = .bool b := by
  cases n with
  | bool c =>
      cases h
      rfl
  | null | broken _ => cases h
  | number m => simp [keep_number] at h
  | string l => simp [keep_string] at h
  | array items ending => simp [keep_array] at h
  | object members ending => simp [keep_object] at h

theorem eq_string_of_keep {s : String} (h : n.keep depth = .ok (.string s)) :
    ∃ l : Literal, n = .string l ∧ l.text = .ok s := by
  cases n with
  | string l =>
      obtain ⟨s', hs', heq⟩ := keep_string.mp h
      cases heq
      exact ⟨l, rfl, hs'⟩
  | null | bool _ | broken _ => cases h
  | number m => simp [keep_number] at h
  | array items ending => simp [keep_array] at h
  | object members ending => simp [keep_object] at h

theorem eq_number_of_keep {x : Number} (h : n.keep depth = .ok (.number x)) :
    ∃ m : Numeral, n = .number m ∧ m.value = .ok x := by
  cases n with
  | number m =>
      obtain ⟨x', hx', heq⟩ := keep_number.mp h
      cases heq
      exact ⟨m, rfl, hx'⟩
  | null | bool _ | broken _ => cases h
  | string l => simp [keep_string] at h
  | array items ending => simp [keep_array] at h
  | object members ending => simp [keep_object] at h

theorem eq_array_of_keep {vs : List Value} (h : n.keep depth = .ok (.array vs)) :
    ∃ inner items, n = .array items .closed ∧ enter depth = .ok inner ∧
      List.Forall₂ (fun (item : Node) v => item.keep inner = .ok v) items vs := by
  cases n with
  | array items ending =>
      obtain ⟨inner, vs', hinner, hvs, rfl, heq⟩ := keep_array.mp h
      cases heq
      exact ⟨inner, items, rfl, hinner, keepItems_eq_ok.mp hvs⟩
  | null | bool _ | broken _ => cases h
  | number m => simp [keep_number] at h
  | string l => simp [keep_string] at h
  | object members ending => simp [keep_object] at h

theorem eq_object_of_keep {vs : List (String × Value)} (h : n.keep depth = .ok (.object vs)) :
    ∃ inner members, n = .object members .closed ∧ enter depth = .ok inner ∧
      keepMembers inner members = .ok vs := by
  cases n with
  | object members ending =>
      obtain ⟨inner, vs', hinner, hvs, rfl, heq⟩ := keep_object.mp h
      cases heq
      exact ⟨inner, members, rfl, hinner, hvs⟩
  | null | bool _ | broken _ => cases h
  | number m => simp [keep_number] at h
  | string l => simp [keep_string] at h
  | array items ending => simp [keep_array] at h

end Node

/-! ## Shapes -/

section

variable {depth : Nat} {n : Node} {d : Datum}

attribute [local simp] Shape.ofNode mismatch_ne_ok

theorem ofNode_text : Shape.text.ofNode depth n = .ok d ↔
    ∃ l s, n = .string l ∧ l.text = .ok s ∧ d = .text s := by
  cases n
  case string l =>
    simp only [Shape.ofNode, map_eq_ok, orMalformed_eq_ok]
    constructor
    · rintro ⟨s, hs, rfl⟩
      exact ⟨l, s, rfl, hs, rfl⟩
    · rintro ⟨_, s, hl, hs, rfl⟩
      cases hl
      exact ⟨s, hs, rfl⟩
  all_goals simp

theorem ofNode_bool : Shape.bool.ofNode depth n = .ok d ↔ ∃ b, n = .bool b ∧ d = .bool b := by
  cases n
  case bool b => simp [eq_comm]
  all_goals simp

theorem ofNode_natural {w : Width} : (Shape.natural w).ofNode depth n = .ok d ↔
    ∃ m v, n = .number m ∧ m.value = .ok v ∧ w.read v = .ok d := by
  cases n
  case number m => simp [bind_eq_ok, orMalformed_eq_ok]
  all_goals simp

theorem ofNode_double : Shape.double.ofNode depth n = .ok d ↔
    ∃ m v, n = .number m ∧ m.value = .ok v ∧ d = .double v.toDouble := by
  cases n
  case number m =>
    simp only [Shape.ofNode, bind_eq_ok, orMalformed_eq_ok, pure_eq_ok]
    constructor
    · rintro ⟨v, hv, rfl⟩
      exact ⟨m, v, rfl, hv, rfl⟩
    · rintro ⟨_, v, hm, hv, rfl⟩
      cases hm
      exact ⟨v, hv, rfl⟩
  all_goals simp

theorem ofNode_optional {shape : Shape} : (Shape.optional shape).ofNode depth n = .ok d ↔
    (n = .null ∧ d = .absent) ∨ (n ≠ .null ∧ shape.ofNode depth n = .ok d) := by
  cases n
  case null => simp [eq_comm]
  all_goals simp

theorem ofNode_list {shape : Shape} : (Shape.list shape).ofNode depth n = .ok d ↔
    ∃ inner items ds, enter depth = .ok inner ∧ n = .array items .closed ∧
      List.Forall₂ (fun item d => shape.ofNode inner item = .ok d) items ds ∧ d = .list ds := by
  cases n
  case array items ending =>
    simp only [Shape.ofNode, bind_eq_ok, reject_eq_ok, pure_eq_ok, readEach_eq_ok,
      Ending.keptInArray_eq_none]
    constructor
    · rintro ⟨inner, hinner, ds, hds, _, rfl, rfl⟩
      exact ⟨inner, items, ds, hinner, rfl, hds, rfl⟩
    · rintro ⟨inner, items, ds, hinner, hn, hds, rfl⟩
      cases hn
      exact ⟨inner, hinner, ds, hds, (), rfl, rfl⟩
  all_goals simp

theorem ofNode_labels : Shape.labels.ofNode depth n = .ok d ↔
    ∃ inner members labels, enter depth = .ok inner ∧ n = .object members .closed ∧
      readMembersWith putLabel .empty members = .ok labels ∧ d = .labels labels := by
  cases n
  case object members ending =>
    simp only [Shape.ofNode, bind_eq_ok, reject_eq_ok, pure_eq_ok, Ending.keptInObject_eq_none]
    constructor
    · rintro ⟨inner, hinner, labels, hlabels, _, rfl, rfl⟩
      exact ⟨inner, members, labels, hinner, rfl, hlabels, rfl⟩
    · rintro ⟨inner, members, labels, hinner, hn, hlabels, rfl⟩
      cases hn
      exact ⟨inner, hinner, labels, hlabels, (), rfl, rfl⟩
  all_goals simp

theorem ofNode_any : Shape.any.ofNode depth n = .ok d ↔
    ∃ v, n.keep depth = .ok v ∧ d = .any v.sorted := by
  simp only [Shape.ofNode, map_eq_ok]
  constructor
  · rintro ⟨v, hv, rfl⟩
    exact ⟨v, hv, rfl⟩
  · rintro ⟨v, hv, rfl⟩
    exact ⟨v, hv, rfl⟩

theorem ofNode_record {name : String} {row : Row} :
    (Shape.record name row).ofNode depth n = .ok d ↔ ∃ inner fields, enter depth = .ok inner ∧
      d = .record fields ∧
      ((∃ members slots, n = .object members .closed ∧
          readMembersWith (fun slots key n => row.putNode inner key n slots) row.unfilled members =
            .ok slots ∧ row.finish slots = .ok fields) ∨
        ∃ items, n = .array items .closed ∧
          row.nodesInOrder inner (row.described name) .closed 0 items = .ok (fields, [])) := by
  cases n
  case object members ending =>
    simp only [Shape.ofNode, bind_eq_ok, reject_eq_ok, pure_eq_ok, Ending.keptInObject_eq_none]
    constructor
    · rintro ⟨inner, hinner, slots, hslots, _, rfl, fields, hfields, rfl⟩
      exact ⟨inner, fields, hinner, rfl, .inl ⟨members, slots, rfl, hslots, hfields⟩⟩
    · rintro ⟨inner, fields, hinner, rfl,
        ⟨members, slots, hn, hslots, hfields⟩ | ⟨items, hn, -⟩⟩
      · cases hn
        exact ⟨inner, hinner, slots, hslots, (), rfl, fields, hfields, rfl⟩
      · cases hn
  case array items ending =>
    simp only [Shape.ofNode, bind_eq_ok, reject_eq_ok, pure_eq_ok, leftOver_eq_none]
    constructor
    · rintro ⟨inner, hinner, ⟨fields, rest⟩, hfields, _, ⟨rfl, rfl⟩, rfl⟩
      exact ⟨inner, fields, hinner, rfl, .inr ⟨items, rfl, hfields⟩⟩
    · rintro ⟨inner, fields, hinner, rfl,
        ⟨members, slots, hn, -⟩ | ⟨items, hn, hfields⟩⟩
      · cases hn
      · cases hn
        exact ⟨inner, hinner, (fields, []), hfields, (), ⟨rfl, rfl⟩, rfl⟩
  all_goals simp

end

/-! ## Whole documents -/

theorem read_eq_ok {α : Type} [Wire α] {doc : Document} {a : α} : doc.read = .ok a ↔
    ∃ d, (Wire.shape α).ofNode depthLimit doc.root = .ok d ∧ doc.trailing = false ∧
      Wire.ofDatum d = a := by
  unfold Document.read Document.decode
  simp only [map_eq_ok, bind_eq_ok]
  constructor
  · rintro ⟨d, ⟨d', hd, hend⟩, rfl⟩
    split at hend
    · cases hend
    · rename_i htrailing
      cases hend
      exact ⟨d, hd, by simpa using htrailing, rfl⟩
  · rintro ⟨d, hd, htrailing, rfl⟩
    exact ⟨d, ⟨d, hd, by rw [htrailing]; rfl⟩, rfl⟩

end Rollout.Json
