import ClassGraph.Graph.Consistency
import ClassGraph.Instantiation.Basic

/-!
# Findings of a check

What the classes violate, and what is wrong with the graph that was built from them.
-/

namespace ClassGraph

/-- What a check has found. -/
structure Findings where
  /-- What the classes violate. -/
  issues : List Issue
  /-- The rules that the graph breaks. -/
  broken : List Inconsistency
  /-- The number of entities that were checked. -/
  entities : Nat
  /-- The number of edges that were checked. -/
  edges : Nat

namespace Findings

/-- The findings on an instantiation. -/
def ofInstantiation (i : Instantiation) : Findings where
  issues := i.issues
  broken := i.graph.inconsistencies
  entities := i.graph.entities.size
  edges := i.graph.edges.size

/-- The number of findings. -/
def count (f : Findings) : Nat := f.issues.length + f.broken.length

/-- The lines of the report on findings, or the line that there are none. -/
def lines (f : Findings) : List String :=
  if f.count = 0 then
    [s!"OK: {f.entities} entities, {f.edges} edges, no ownership or contract violations"]
  else
    f.issues.map (fun i => "WARN: " ++ i.message) ++ f.broken.map fun b => "ERROR: " ++ b.message

end Findings

end ClassGraph
