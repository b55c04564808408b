import Rollout.Text.Blank
/-!
# Arguments

Arguments of the form `--key=value` and `--flag`. Of arguments with the same key the last counts;
anything else is passed over.
-/

namespace Rollout

/-- Keys and values in the order in which they were given. -/
structure Arguments where
  pairs : List (String × String)
  deriving DecidableEq, Repr

namespace Arguments

/-- The characters before the first `c` and those after it, if there is one. -/
def splitOnce? (c : Char) (cs : List Char) : Option (List Char × List Char) :=
  match cs with
  | [] => none
  | d :: rest =>
    if d = c then some ([], rest)
    else (splitOnce? c rest).map fun (before, after) => (d :: before, after)

def withoutDashes (cs : List Char) : String := String.ofList (cs.dropWhile (· == '-'))

/-- One argument. A flag has the value `true`. -/
def pair? (argument : String) : Option (String × String) :=
  let cs := argument.toList
  match splitOnce? '=' cs with
  | some (key, value) => some (withoutDashes key, String.ofList value)
  | none =>
    match cs with
    | '-' :: '-' :: _ => some (withoutDashes cs, "true")
    | _ => none

def parse (arguments : List String) : Arguments := ⟨arguments.filterMap pair?⟩

/-- The last value of a key. -/
def get? (a : Arguments) (key : String) : Option String :=
  a.pairs.reverse.lookup key

/-- The names in a list with commas; blanks around a name and empty names do not count. -/
def names (list : String) : List String :=
  (parts list.toList).map (fun part => String.ofList (Text.trimBlank part))
    |>.filter fun name => !name.isEmpty
where
  parts : List Char → List (List Char)
    | [] => [[]]
    | c :: cs =>
      if c = ',' then [] :: parts cs
      else match parts cs with
        | [] => [[c]]
        | part :: rest => (c :: part) :: rest

end Arguments

end Rollout
