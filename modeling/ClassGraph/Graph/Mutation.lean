import ClassGraph.Graph.Basic

/-!
# Changing an entity graph

The four requests that change a graph: `create` an entity, `link` two of them, `unlink` an edge,
and `delete` an entity together with its parts. A refused request leaves the graph as it was.
Composition stays a forest: `link` refuses a second owner and a cycle.
-/

namespace ClassGraph.EntityGraph

/-- Adds an entity of a type, with the roles asked for and those of its type. -/
def create (g : EntityGraph) (tag : String) (roles : List String) :
    Except GraphError (EntityId × EntityGraph) :=
  match g.registry.rolesOfInstance tag roles with
  | .error e => .error (.contract e)
  | .ok roles =>
    let id : EntityId := ⟨g.nextEntity⟩
    .ok (id, { g with
      entities := g.entities.insert id { id, typeTag := tag, roles }
      outgoing := g.outgoing.insert id ∅
      incoming := g.incoming.insert id ∅
      nextEntity := g.nextEntity + 1 })

/-- Whether `ancestor` is met within `limit` steps from `node` to its owner, to the owner's owner
and so on. -/
def ownsWithin (g : EntityGraph) (ancestor : EntityId) : Nat → EntityId → Bool
  | limit, node =>
    node == ancestor ||
      match limit, g.composerOf node with
      | limit + 1, some owner => g.ownsWithin ancestor limit owner
      | _, _ => false

/-- Whether an entity is another or has it among its parts, directly or not. A chain of owners
without repetition has a composition for each step. -/
def owns (g : EntityGraph) (ancestor node : EntityId) : Bool :=
  g.ownsWithin ancestor g.composer.size node

/-- Whether a new association clashes with one of the same source and label, because one of the
two allows a single target only. -/
def clashes (g : EntityGraph) (l : Link) : Bool :=
  (g.edgesFrom l.source).any fun e =>
    e.kind == .association && e.label == l.label &&
      (e.cardinality == some .one || l.cardinality == some .one)

/-- Refuses a link that breaks the rule of its kind. -/
def checkKind (g : EntityGraph) (l : Link) : Except GraphError Unit :=
  match l.kind with
  | .composition =>
    match g.composerOf l.target with
    | some owner => .error (.ownershipConflict l.target owner)
    | none => if g.owns l.target l.source then .error (.cycle l.source l.target) else .ok ()
  | .association => if g.clashes l then .error (.cardinality l.source l.label) else .ok ()
  | .aggregation | .dependency => .ok ()

/-- The index with one more edge under an entity. -/
def addToIndex (index : Std.ExtTreeMap EntityId EdgeSet) (holder : EntityId) (id : EdgeId) :
    Std.ExtTreeMap EntityId EdgeSet :=
  index.insert holder ((index[holder]?.getD ∅).insert id)

/-- The index without an edge under an entity. -/
def removeFromIndex (index : Std.ExtTreeMap EntityId EdgeSet) (holder : EntityId) (id : EdgeId) :
    Std.ExtTreeMap EntityId EdgeSet :=
  match index[holder]? with
  | none => index
  | some ids => index.insert holder (ids.erase id)

/-- The graph with a new edge, which nothing checks. -/
def insertEdge (g : EntityGraph) (l : Link) : EdgeId × EntityGraph :=
  let id : EdgeId := ⟨g.nextEdge⟩
  (id, { g with
    edges := g.edges.insert id { toLink := l, id }
    outgoing := addToIndex g.outgoing l.source id
    incoming := addToIndex g.incoming l.target id
    composer := if l.kind = .composition then g.composer.insert l.target id else g.composer
    nextEdge := g.nextEdge + 1 })

/-- Joins two live entities. -/
def link (g : EntityGraph) (l : Link) : Except GraphError (EdgeId × EntityGraph) := do
  g.requireLive l.source
  g.requireLive l.target
  g.checkKind l
  return g.insertEdge l

/-- The graph without an edge and its entries in the indexes. -/
def dropEdge (g : EntityGraph) (e : Edge) : EntityGraph :=
  { g with
    edges := g.edges.erase e.id
    outgoing := removeFromIndex g.outgoing e.source e.id
    incoming := removeFromIndex g.incoming e.target e.id
    composer :=
      if e.kind = .composition ∧ g.composer[e.target]? = some e.id then g.composer.erase e.target
      else g.composer }

/-- Removes an edge and nothing else, and returns it. -/
def unlink (g : EntityGraph) (id : EdgeId) : Except GraphError (Edge × EntityGraph) :=
  match g.edges[id]? with
  | none => .error (.unknown (.edge id))
  | some e => .ok (e, g.dropEdge e)

/-- The parts of an entity down to `depth` levels, each behind its own parts, and the entity
last. -/
def partsFirstWithin (g : EntityGraph) : Nat → EntityId → List EntityId
  | 0, id => [id]
  | depth + 1, id => (g.partsOf id).flatMap (g.partsFirstWithin depth) ++ [id]

/-- An entity behind all its parts, direct or not, each of them behind its own parts. No chain of
parts is longer than there are compositions. -/
def partsFirst (g : EntityGraph) (id : EntityId) : List EntityId :=
  g.partsFirstWithin g.composer.size id

/-- The graph without an entity and all edges that touch it. -/
def detach (g : EntityGraph) (id : EntityId) : EntityGraph :=
  let touching := g.outgoing[id]?.getD ∅ ∪ g.incoming[id]?.getD ∅
  let bare := { g with outgoing := g.outgoing.erase id, incoming := g.incoming.erase id }
  let without := touching.toList.foldl
    (fun g id => match g.edges[id]? with | none => g | some e => g.dropEdge e) bare
  { without with entities := without.entities.erase id }

/-- Removes an entity with all its parts, and returns them, parts before their owners. -/
def delete (g : EntityGraph) (id : EntityId) : Except GraphError (List EntityId × EntityGraph) := do
  g.requireLive id
  let order := g.partsFirst id
  return (order, order.foldl detach g)

end ClassGraph.EntityGraph
