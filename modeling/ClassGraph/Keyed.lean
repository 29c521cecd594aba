import Std.Data.ExtTreeMap

/-!
# Keyed values

Lists of values with a key each, in which the order counts: `List.lookup` finds a value, and
`Keyed.put` sets one. Maps to lists of values, to which `Keyed.push` adds one.
-/

namespace ClassGraph.Keyed

/-- The list with a value under a key, at the place of the key, or behind the others. -/
def put {κ α : Type} [DecidableEq κ] (key : κ) (value : α) : List (κ × α) → List (κ × α)
  | [] => [(key, value)]
  | entry :: more =>
    if entry.1 = key then (key, value) :: more else entry :: put key value more

/-- The map with a value behind those that stand under a key already. -/
def push {κ α : Type} [Ord κ] [Std.TransOrd κ] (key : κ) (value : α)
    (m : Std.ExtTreeMap κ (List α)) : Std.ExtTreeMap κ (List α) :=
  m.insert key (m[key]?.getD [] ++ [value])

end ClassGraph.Keyed
