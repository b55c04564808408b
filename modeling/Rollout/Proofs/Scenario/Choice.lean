import Rollout.Proofs.Json.Success
import Rollout.Scenario.Basic
/-!
# The choice of scenarios

Every name is that of one scenario, so that names choose scenarios one by one, in their order and as
often as they are given. Without names all scenarios are chosen.
-/

namespace Rollout

namespace Scenario

variable {σ : Type}

theorem named_eq_ok_iff {name : String} {s : Scenario σ} :
    named name = .ok s ↔ s ∈ all ∧ s.name = name := by
  constructor
  · intro h
    unfold named at h
    cases hfind : (all : List (Scenario σ)).find? (·.name == name) with
    | none =>
        rw [hfind] at h
        cases h
    | some found =>
        rw [hfind] at h
        cases h
        have hname := List.find?_some hfind
        exact ⟨List.mem_of_find?_eq_some hfind, beq_iff_eq.mp hname⟩
  · rintro ⟨hs, rfl⟩
    simp only [all, List.mem_cons, List.not_mem_nil, or_false] at hs
    rcases hs with rfl | rfl | rfl | rfl <;> rfl

/-- The scenarios of some names, one for each, or all of them if no name is given. -/
def Chosen (names : List String) (scenarios : List (Scenario σ)) : Prop :=
  if names = [] then scenarios = all
  else List.Forall₂ (fun name s => s ∈ all ∧ s.name = name) names scenarios

theorem select_eq_ok_iff {names : List String} {scenarios : List (Scenario σ)} :
    select names = .ok scenarios ↔ Chosen names scenarios := by
  unfold select Chosen
  cases names with
  | nil => simp [eq_comm]
  | cons name rest =>
      simp only [List.isEmpty_cons, Bool.false_eq_true, if_false, reduceCtorEq]
      rw [Json.mapM_eq_ok_iff]
      simp only [named_eq_ok_iff]

theorem mem_all_of_named {name : String} {s : Scenario σ} (h : named name = .ok s) : s ∈ all :=
  (named_eq_ok_iff.mp h).1

theorem Chosen.mem_all {names : List String} {scenarios : List (Scenario σ)}
    (h : Chosen names scenarios) : ∀ s ∈ scenarios, s ∈ all := by
  unfold Chosen at h
  split at h
  · exact fun s hs => h ▸ hs
  · clear * - h
    induction h with
    | nil => exact fun _ hs => absurd hs List.not_mem_nil
    | cons hfirst _ ih => exact List.forall_mem_cons.mpr ⟨hfirst.1, ih⟩

theorem Chosen.ne_nil {names : List String} {scenarios : List (Scenario σ)}
    (h : Chosen names scenarios) : scenarios ≠ [] := by
  unfold Chosen at h
  split at h
  · rw [h]
    exact List.cons_ne_nil _ _
  · rintro rfl
    cases h
    contradiction

end Scenario

end Rollout
