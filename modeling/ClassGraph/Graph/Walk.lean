import ClassGraph.Graph.Basic

/-!
# Walks through an entity graph

A walk visits what an entity leads to over edges of some kinds, breadth first: nearer entities
before farther ones, and those of one distance in the order of the edges that lead to them. It is
taken step by step, and a walk that is not finished is a value like any other.
-/

namespace ClassGraph

/-- A walk that has been started. -/
structure Walk where
  /-- The graph that is walked through. -/
  graph : EntityGraph
  /-- The kinds of edges that are followed. -/
  kinds : KindSet
  /-- The entities that come next, in order. -/
  queue : List EntityId
  /-- The entities that have been met. -/
  seen : EntitySet

namespace Walk

/-- The walk with the entities that `node` leads to, as far as they are new, at the end of its
queue. -/
def expand (w : Walk) (node : EntityId) : Walk :=
  (w.graph.edgesFrom node).foldl (fun w e =>
    if w.kinds.contains e.kind && !w.seen.contains e.target then
      { w with queue := w.queue ++ [e.target], seen := w.seen.insert e.target }
    else w) w

/-- The walk from an entity, which is not itself visited. -/
def start (g : EntityGraph) (kinds : KindSet) (id : EntityId) : Walk :=
  expand { graph := g, kinds, queue := [], seen := {id} } id

/-- The next entity and the rest of the walk. -/
def next? (w : Walk) : Option (EntityId × Walk) :=
  match w.queue with
  | [] => none
  | node :: queue => some (node, { w with queue }.expand node)

/-- Up to `count` entities, and the rest of the walk. -/
def take : Nat → Walk → List EntityId × Walk
  | 0, w => ([], w)
  | count + 1, w =>
    match w.next? with
    | none => ([], w)
    | some (node, w) =>
      let (nodes, w) := w.take count
      (node :: nodes, w)

/-- The entities that are left to visit. Each is in the queue or enters it over an edge of its
own, so that there are no more of them than of both together. -/
def rest (w : Walk) : List EntityId := (w.take (w.queue.length + w.graph.edges.size)).1

end Walk

/-- What a live entity leads to over edges of some kinds. -/
def EntityGraph.reachable (g : EntityGraph) (id : EntityId) (kinds : KindSet) :
    Except GraphError Walk := do
  g.requireLive id
  return Walk.start g kinds id

end ClassGraph
