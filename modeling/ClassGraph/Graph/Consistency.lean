import ClassGraph.Graph.Basic
import ClassGraph.Keyed

/-!
# Consistency of an entity graph

`inconsistencies` inspects a graph from scratch and believes none of its indexes: edges must join
live entities, an entity has at most one owner, the index of compositions agrees with the edges,
and no chain of owners comes back. The requests keep all of this, so that its answer is empty for
every graph they lead to.
-/

namespace ClassGraph

/-- A rule that a graph breaks. -/
inductive Inconsistency where
  /-- An edge joins an entity that is not live. -/
  | danglingEdge (edge : EdgeId)
  /-- An entity has several owners. -/
  | sharedPart (target : EntityId) (owners : Nat)
  /-- The index does not name the first composition of an entity. -/
  | unindexed (target : EntityId)
  /-- The index names an entity that nothing composes. -/
  | staleIndex
  /-- The owners of an entity never end. -/
  | cycle (start : EntityId)
deriving DecidableEq, Repr

/-- The wording of a broken rule. -/
def Inconsistency.message : Inconsistency → String
  | .danglingEdge edge => s!"edge {edge.text} has a dangling endpoint"
  | .sharedPart target owners => s!"entity {target.text} has {owners} composers"
  | .unindexed target => s!"composer index out of sync for {target.text}"
  | .staleIndex => "composer index holds stale entries"
  | .cycle start => s!"composition cycle through {start.text}"

namespace EntityGraph

/-- The compositions that lead to each entity, oldest first. -/
def compositions (g : EntityGraph) : Std.ExtTreeMap EntityId (List EdgeId) :=
  g.edges.toList.foldl (fun found (_, e) =>
    if e.kind = .composition then Keyed.push e.target e.id found else found) ∅

/-- Whether the owners above `node` come back to `start` or are more than `limit`. -/
def ownersCycle (g : EntityGraph) (start : EntityId) (limit : Nat) (node : EntityId) : Bool :=
  match g.composerOf node with
  | none => false
  | some owner =>
    owner == start ||
      match limit with
      | 0 => true
      | limit + 1 => g.ownersCycle start limit owner

/-- Every rule that a graph breaks. -/
def inconsistencies (g : EntityGraph) : List Inconsistency :=
  let dangling := g.edges.toList.filterMap fun (_, e) =>
    if g.contains e.source && g.contains e.target then none else some (.danglingEdge e.id)
  let compositions := g.compositions
  let owners := compositions.toList.flatMap fun (target, edges) =>
    (if edges.length > 1 then [.sharedPart target edges.length] else []) ++
      (if g.composer[target]? = edges.head? then [] else [.unindexed target])
  let stale := if g.composer.size = compositions.size then [] else [.staleIndex]
  let cycles := g.entities.toList.filterMap fun (id, _) =>
    if g.ownersCycle id g.entities.size id then some (.cycle id) else none
  dangling ++ owners ++ stale ++ cycles

end EntityGraph

end ClassGraph
