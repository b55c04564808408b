import Mathlib.Data.List.Basic
import Rollout.Program.Arguments
/-!
# Names in arguments

The scenarios that a session is asked for. Of the values of a key the last one counts; a list of
names is cut at its commas.
-/

namespace Rollout

namespace Arguments

/-- The values of a key, in the order in which they were given. -/
def values (a : Arguments) (key : String) : List String :=
  (a.pairs.filter (·.1 == key)).map (·.2)

theorem get?_eq_getLast? (a : Arguments) (key : String) :
    a.get? key = (a.values key).getLast? := by
  unfold get? values
  rw [List.getLast?_map, List.getLast?_filter]
  induction a.pairs.reverse with
  | nil => rfl
  | cons pair rest ih =>
      rw [List.lookup_cons, List.find?_cons, Bool.beq_comm]
      split <;> simp_all

theorem names_parts_eq_splitOn (cs : List Char) : names.parts cs = cs.splitOn ',' := by
  induction cs with
  | nil => rfl
  | cons c rest ih =>
      rw [names.parts, List.splitOn_cons_eq_if_modifyHead, ih]
      by_cases hc : c = ','
      · simp [hc]
      · have hne := List.splitOn_ne_nil ',' rest
        simp only [hc, if_false, beq_iff_eq]
        cases hparts : rest.splitOn ',' with
        | nil => exact absurd hparts hne
        | cons part parts => rfl

/-- The scenarios that are asked for by name. -/
def scenarioNames (a : Arguments) : List String :=
  match (a.values "scenario").getLast? with
  | some list =>
    ((list.toList.splitOn ',').map fun part => String.ofList (Text.trimBlank part)).filter
      fun name => !name.isEmpty
  | none => []

theorem names_get?_scenario (a : Arguments) :
    ((a.get? "scenario").map names |>.getD []) = a.scenarioNames := by
  unfold scenarioNames
  rw [get?_eq_getLast?]
  cases (a.values "scenario").getLast? with
  | none => rfl
  | some list =>
      simp only [Option.map_some, Option.getD_some]
      rw [names, names_parts_eq_splitOn]

end Arguments

end Rollout
