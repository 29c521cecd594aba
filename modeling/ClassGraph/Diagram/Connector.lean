import Std.Data.ExtTreeSet
import ClassGraph.Model.Basic

/-!
# Connectors of a class diagram

A diagram draws the supertypes of a class, its structural relations, and those dependencies that
no structural relation shows already. `connectorLines` writes them with a notation of its own for
each format, in ascending order and each once.
-/

namespace ClassGraph.Diagram

/-- What a line between two classes says. -/
inductive Connector where
  /-- The first class extends the second. -/
  | inheritance
  /-- The first class names the second as an interface. -/
  | realization
  /-- The first class is related to the second. -/
  | relation (kind : RelationKind)
deriving DecidableEq, Repr

/-- The connectors that leave a class, each with the name of the other class. -/
def connectorsOf (c : Classifier) : List (Connector × String) :=
  (c.superclass.toList.map fun name => (.inheritance, name)) ++
    (c.interfaces.map fun name => (.realization, name)) ++
    ([.association, .aggregation, .composition].flatMap fun kind =>
      (c.targets kind).map fun name => (.relation kind, name)) ++
    (c.uncoveredDependencies.map fun name => (.relation .dependency, name))

/-- The lines of all connectors, as `write` draws each from its source to its target. -/
def connectorLines (write : String → Connector → String → String) (classes : List Classifier) :
    List String :=
  let all := classes.flatMap fun c =>
    (connectorsOf c).map fun (connector, target) => write c.name connector target
  (Std.ExtTreeSet.ofList all).toList

/-- Classes in the order of their names; those of one name keep their order. -/
def byName (classes : List Classifier) : List Classifier :=
  classes.mergeSort fun a b => a.name ≤ b.name

end ClassGraph.Diagram
