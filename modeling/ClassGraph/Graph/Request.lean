import ClassGraph.Graph.Mutation

/-!
# Requests to an entity graph

A graph is changed by requests only. `apply` answers one and `run` a whole history, in which a
refused request changes nothing. A shared graph answers the requests of several clients one at a
time; a client that fails while it writes leaves it poisoned, and from then on all is refused.
-/

namespace ClassGraph

/-- A change that is asked of a graph. -/
inductive Request where
  /-- An entity of a type, with further roles. -/
  | create (tag : String) (roles : List String)
  /-- An edge. -/
  | link (l : Link)
  /-- The removal of an edge. -/
  | unlink (id : EdgeId)
  /-- The removal of an entity with its parts. -/
  | delete (id : EntityId)
deriving DecidableEq, Repr

/-- The answer to a request that is granted. -/
inductive Answer where
  /-- The new entity. -/
  | created (id : EntityId)
  /-- The new edge. -/
  | linked (id : EdgeId)
  /-- The edge that was there. -/
  | unlinked (edge : Edge)
  /-- The entities that were there, parts before their owners. -/
  | deleted (ids : List EntityId)
deriving DecidableEq, Repr

namespace EntityGraph

/-- The answer to a request and the graph behind it. -/
def apply (g : EntityGraph) : Request → Except GraphError (Answer × EntityGraph)
  | .create tag roles => (g.create tag roles).map fun (id, g) => (.created id, g)
  | .link l => (g.link l).map fun (id, g) => (.linked id, g)
  | .unlink id => (g.unlink id).map fun (edge, g) => (.unlinked edge, g)
  | .delete id => (g.delete id).map fun (ids, g) => (.deleted ids, g)

/-- The answer to a request, and the graph behind it also when the request is refused. -/
def attempt (g : EntityGraph) (r : Request) : Except GraphError Answer × EntityGraph :=
  match g.apply r with
  | .error e => (.error e, g)
  | .ok (answer, g) => (.ok answer, g)

/-- The graph behind a history of requests. -/
def run (g : EntityGraph) (history : List Request) : EntityGraph :=
  history.foldl (fun g r => (g.attempt r).2) g

end EntityGraph

/-- A graph that several clients use, one at a time. -/
structure SharedGraph where
  /-- The graph. -/
  graph : EntityGraph
  /-- Whether a writer has failed. -/
  isPoisoned : Bool := false

namespace SharedGraph

/-- What `query` says of the graph. -/
def read {α : Type} (s : SharedGraph) (query : EntityGraph → α) : Except GraphError α :=
  if s.isPoisoned then .error .poisoned else .ok (query s.graph)

/-- The result of `change`, and the graph behind it. -/
def write {α : Type} (s : SharedGraph) (change : EntityGraph → α × EntityGraph) :
    Except GraphError α × SharedGraph :=
  if s.isPoisoned then (.error .poisoned, s)
  else
    let (result, graph) := change s.graph
    (.ok result, { s with graph })

/-- The graph behind a writer that failed. -/
def poison (s : SharedGraph) : Except GraphError Unit × SharedGraph :=
  if s.isPoisoned then (.error .poisoned, s) else (.ok (), { s with isPoisoned := true })

/-- The answer to one request of a client. -/
def attempt (s : SharedGraph) (r : Request) : Except GraphError Answer × SharedGraph :=
  match s.write fun g => g.attempt r with
  | (.error e, s) => (.error e, s)
  | (.ok answer, s) => (answer, s)

end SharedGraph

end ClassGraph
