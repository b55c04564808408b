import Rollout.Proofs.Json.Held
import Rollout.Proofs.Wire.Objects
/-!
# Answers to submissions

The answer to a submission holds the members of an app beside its deployments. It is read in two
goes, the app from what was kept in the first one. Both parts come out as if each of them were read
on its own, whatever else the answer has and in whatever order.
-/

namespace Rollout.Json

/-! ## Reading at another depth -/

mutual

/-- Whatever is read through the shape has the levels of the shape and no others. -/
def Shape.levelled : Shape → Bool
  | .optional shape | .list shape => shape.levelled
  | .record _ row => row.levelled
  | .text | .bool | .natural _ | .double | .labels => true
  | .any | .variant _ | .flattened _ _ _ _ => false

def Row.levelled : Row → Bool
  | .nil => true
  | .cons _ shape _ _ row => shape.levelled && row.levelled

end

theorem ok_bind {ε α β : Type} (a : α) (f : α → Except ε β) :
    (Except.ok a >>= f) = f a := rfl

theorem Row.levelled_cons {name : String} {shape : Shape} {fallback : Option Datum} {sparse : Bool}
    {row : Row} : (Row.cons name shape fallback sparse row).levelled = true ↔
      shape.levelled = true ∧ row.levelled = true := by
  simp [Row.levelled]

mutual

/-- How deep a tree stands makes no difference where it may be as deep as the shape. -/
theorem Shape.ofNode_of_levels {depth other : Nat} :
    (shape : Shape) → shape.levelled = true → shape.levels < depth → shape.levels < other →
      ∀ n, shape.ofNode depth n = shape.ofNode other n
  | .text, _, _, _ => fun n => by cases n <;> rfl
  | .bool, _, _, _ => fun n => by cases n <;> rfl
  | .natural _, _, _, _ => fun n => by cases n <;> rfl
  | .double, _, _, _ => fun n => by cases n <;> rfl
  | .optional shape, hlevelled, hdepth, hother => fun n => by
      have hshape := shape.ofNode_of_levels hlevelled hdepth hother n
      cases n with
      | null => rfl
      | _ => exact hshape
  | .list shape, hlevelled, hdepth, hother => fun n => by
      obtain ⟨inner, hinner, hlt⟩ := enter_of_lt hdepth
      obtain ⟨inner', hinner', hlt'⟩ := enter_of_lt hother
      have hshape := funext (shape.ofNode_of_levels hlevelled hlt hlt')
      cases n with
      | array items ending =>
          simp only [Shape.ofNode, hinner, hinner', ok_bind, hshape]
      | _ => rfl
  | .labels, _, hdepth, hother => fun n => by
      obtain ⟨inner, hinner, -⟩ := enter_of_lt hdepth
      obtain ⟨inner', hinner', -⟩ := enter_of_lt hother
      cases n with
      | object members ending => simp only [Shape.ofNode, hinner, hinner', ok_bind]
      | _ => rfl
  | .record name row, hlevelled, hdepth, hother => fun n => by
      obtain ⟨inner, hinner, hlt⟩ := enter_of_lt hdepth
      obtain ⟨inner', hinner', hlt'⟩ := enter_of_lt hother
      cases n with
      | object members ending =>
          have hput : (fun slots key n => row.putNode inner key n slots) =
              fun slots key n => row.putNode inner' key n slots := by
            funext slots key n
            exact row.putNode_of_levels hlevelled hlt hlt' key n slots
          simp only [Shape.ofNode, hinner, hinner', ok_bind, hput]
      | array items ending =>
          simp only [Shape.ofNode, hinner, hinner', ok_bind,
            row.nodesInOrder_of_levels hlevelled hlt hlt']
      | _ => rfl
  | .any, hlevelled, _, _ => by cases hlevelled
  | .variant _, hlevelled, _, _ => by cases hlevelled
  | .flattened _ _ _ _, hlevelled, _, _ => by cases hlevelled

theorem Row.putNode_of_levels {depth other : Nat} :
    (row : Row) → row.levelled = true → row.levels < depth → row.levels < other →
      ∀ key n slots, row.putNode depth key n slots = row.putNode other key n slots
  | .nil, _, _, _ => fun _ _ _ => rfl
  | .cons name shape fallback sparse row, hlevelled, hdepth, hother => fun key n slots => by
      obtain ⟨hshape, hrow⟩ := Row.levelled_cons.mp hlevelled
      have hfirst := shape.ofNode_of_levels hshape (Nat.lt_of_le_of_lt (Nat.le_max_left _ _) hdepth)
        (Nat.lt_of_le_of_lt (Nat.le_max_left _ _) hother)
      have hlater := row.putNode_of_levels hrow (Nat.lt_of_le_of_lt (Nat.le_max_right _ _) hdepth)
        (Nat.lt_of_le_of_lt (Nat.le_max_right _ _) hother)
      cases slots with
      | nil => rfl
      | cons slot slots => simp only [Row.putNode, hfirst, hlater]

theorem Row.nodesInOrder_of_levels {depth other : Nat} :
    (row : Row) → row.levelled = true → row.levels < depth → row.levels < other →
      ∀ described ending k items, row.nodesInOrder depth described ending k items =
        row.nodesInOrder other described ending k items
  | .nil, _, _, _ => fun _ _ _ _ => rfl
  | .cons name shape fallback sparse row, hlevelled, hdepth, hother =>
    fun described ending k items => by
      obtain ⟨hshape, hrow⟩ := Row.levelled_cons.mp hlevelled
      have hfirst := shape.ofNode_of_levels hshape (Nat.lt_of_le_of_lt (Nat.le_max_left _ _) hdepth)
        (Nat.lt_of_le_of_lt (Nat.le_max_left _ _) hother)
      have hlater := row.nodesInOrder_of_levels hrow
        (Nat.lt_of_le_of_lt (Nat.le_max_right _ _) hdepth)
        (Nat.lt_of_le_of_lt (Nat.le_max_right _ _) hother)
      cases items with
      | nil => simp only [Row.nodesInOrder, hlater]
      | cons item items => simp only [Row.nodesInOrder, hfirst, hlater]

end

end Rollout.Json

namespace Rollout.Wire

open Json Text

theorem kept_of_value {doc : Document} {v : Value} (hvalue : doc.value = .ok v)
    {members : List (Literal × Node)} {ending : Ending}
    (hroot : doc.root = .object members ending) : ending = .closed ∧ doc.trailing = false ∧
      ∃ kept, (Node.object members .closed).keep depthLimit = .ok kept := by
  obtain ⟨kept, hkept, hend⟩ := bind_eq_ok.mp hvalue
  rw [hroot] at hkept
  obtain ⟨inner, vs, hinner, hvs, rfl, rfl⟩ := keep_object.mp hkept
  split at hend
  · cases hend
  · rename_i htrailing
    exact ⟨rfl, by simpa using htrailing, _, hkept⟩

theorem fieldsOf_appCreated {members : List (Literal × Node)} {own : List Datum} :
    AppCreated.row.FieldsOf 127 members own ↔ ∃ d, own = [d] ∧
      ((valuesNamed "deployments" members = [] ∧ d = .list []) ∨
        ∃ n, valuesNamed "deployments" members = [n] ∧
          (Wire.shape (List DeploymentRef)).ofNode depthLimit n = .ok d) := by
  have hdepth : (Shape.list DeploymentRef.shape).ofNode 127 =
      (Wire.shape (List DeploymentRef)).ofNode depthLimit :=
    funext (Shape.ofNode_of_levels (.list DeploymentRef.shape) rfl (by decide) (by decide))
  constructor
  · intro h
    cases h with
    | @cons _ _ _ _ _ d _ field later =>
        cases later
        refine ⟨d, rfl, ?_⟩
        generalize valuesNamed "deployments" members = values at field
        cases field with
        | @found n _ read => exact .inr ⟨n, rfl, by rwa [← hdepth]⟩
        | missing default =>
            cases default
            exact .inl ⟨rfl, rfl⟩
  · rintro ⟨d, rfl, ⟨hnone, rfl⟩ | ⟨n, hone, hread⟩⟩
    · exact .cons (by rw [hnone]; exact .missing rfl) .nil
    · exact .cons (by rw [hone]; exact .found (by rwa [hdepth])) .nil

theorem ofNode_appCreated_iff {members : List (Literal × Node)} {v : Value}
    (hkeep : (Node.object members .closed).keep depthLimit = .ok v) {d : Datum} :
    AppCreated.shape.ofNode depthLimit (.object members .closed) = .ok d ↔
      ∃ held own, d = .record (held :: own) ∧
        App.shape.ofNode depthLimit (.object members .closed) = .ok held ∧
        AppCreated.row.FieldsOf 127 members own :=
  ofNode_flattened_iff (by decide) (by decide) rfl hkeep

/-- An answer to a submission is read from an object text that decodes at all just if the text is
read as an app and its only member for the deployments, if it has one, as a list of them. The answer
has the same app and the same deployments. -/
theorem read_appCreated_iff {s : List Symbol} {v : Value}
    (hvalue : (Document.ofSymbols s).value = .ok v) {members : List (Literal × Node)}
    {ending : Ending} (hroot : (Document.ofSymbols s).root = .object members ending) (app : App)
    (deployments : List DeploymentRef) :
    (Document.ofSymbols s).read = .ok (⟨app, deployments⟩ : AppCreated) ↔
      (Document.ofSymbols s).read = .ok app ∧
        ((valuesNamed "deployments" members = [] ∧ deployments = []) ∨
          ∃ n, valuesNamed "deployments" members = [n] ∧
            (⟨n, false⟩ : Document).read = .ok deployments) := by
  obtain ⟨rfl, htrailing, kept, hkept⟩ := kept_of_value hvalue hroot
  rw [read_eq_ok, read_eq_ok, hroot]
  constructor
  · rintro ⟨d, hd, -, hcreated⟩
    obtain ⟨held, own, rfl, happ, hown⟩ := (ofNode_appCreated_iff hkept).mp hd
    obtain ⟨listed, rfl, hlisted⟩ := fieldsOf_appCreated.mp hown
    cases hcreated
    refine ⟨⟨held, happ, htrailing, rfl⟩, ?_⟩
    rcases hlisted with ⟨hnone, rfl⟩ | ⟨n, hone, hread⟩
    · exact .inl ⟨hnone, rfl⟩
    · exact .inr ⟨n, hone, read_eq_ok.mpr ⟨listed, hread, rfl, rfl⟩⟩
  · rintro ⟨⟨held, happ, -, rfl⟩, hlisted⟩
    have hcreated : ∀ listed, ((valuesNamed "deployments" members = [] ∧ listed = .list []) ∨
        ∃ n, valuesNamed "deployments" members = [n] ∧
          (Wire.shape (List DeploymentRef)).ofNode depthLimit n = .ok listed) →
        AppCreated.shape.ofNode depthLimit (.object members .closed) =
          .ok (.record [held, listed]) := by
      intro listed hown
      exact (ofNode_appCreated_iff hkept).mpr
        ⟨held, [listed], rfl, happ, fieldsOf_appCreated.mpr ⟨listed, rfl, hown⟩⟩
    rcases hlisted with ⟨hnone, rfl⟩ | ⟨n, hone, hread⟩
    · exact ⟨_, hcreated (.list []) (.inl ⟨hnone, rfl⟩), htrailing, rfl⟩
    · obtain ⟨listed, hlisted, -, rfl⟩ := read_eq_ok.mp hread
      exact ⟨_, hcreated listed (.inr ⟨n, hone, hlisted⟩), htrailing, rfl⟩

/-- An answer with its deployments in front and an unknown member. -/
theorem read_appCreated_iff_deployments_first :
    let s := Symbol.ofString
      "\x7b\"deployments\":[\x7b\"id\":\"d\"\x7d],\"tasks\":[],\"id\":\"/a\",\"cpus\":1\x7d"
    let app : App := { (default : App) with id := "/a", cpus := .ofNat 1 }
    ∃ v members ending, (Document.ofSymbols s).value = .ok v ∧
      (Document.ofSymbols s).root = .object members ending ∧
      (Document.ofSymbols s).read = .ok app ∧
      ∃ n, valuesNamed "deployments" members = [n] ∧
        (⟨n, false⟩ : Document).read = .ok [(⟨"d"⟩ : DeploymentRef)] := by
  intro s app
  have hdecodes : (Document.ofSymbols s).value.toOption.isSome = true := by decide +kernel
  obtain ⟨v, hv⟩ := Option.isSome_iff_exists.mp hdecodes
  have hvalue := eq_ok_of_toOption hv
  obtain ⟨members, ending, hroot⟩ := root_of_brace (s := s) rfl
  have hread : (Document.ofSymbols s).read = .ok (⟨app, [⟨"d"⟩]⟩ : AppCreated) :=
    eq_ok_of_toOption (by decide +kernel)
  obtain ⟨happ, ⟨-, hnil⟩ | hone⟩ :=
    (read_appCreated_iff hvalue hroot app [⟨"d"⟩]).mp hread
  · cases hnil
  · exact ⟨v, members, ending, hvalue, hroot, happ, hone⟩

end Rollout.Wire
