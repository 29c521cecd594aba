import ClassGraph.Registry.Contract
import ClassGraph.Relation.Kind

/-!
# Entity graphs

Entities are instances of registered types, and edges join two of them by a relation of one kind.
`EntityGraph` holds both, and beside the edges three indexes of them: by source, by target, and for
each composed entity the edge that composes it. Numbers of entities and edges are never used again.
-/

namespace ClassGraph

/-- The number of an entity. -/
structure EntityId where
  /-- The number. -/
  number : Nat
deriving DecidableEq, Repr, Inhabited

/-- The number of an edge. -/
structure EdgeId where
  /-- The number. -/
  number : Nat
deriving DecidableEq, Repr, Inhabited

/-- Entities are ordered by their numbers. -/
instance : Ord EntityId := ⟨compareOn EntityId.number⟩

instance : Std.TransOrd EntityId := inferInstanceAs (Std.TransCmp (compareOn EntityId.number))

instance : Std.LawfulEqOrd EntityId where
  eq_of_compare := by
    intro a b h
    have h : compareOn EntityId.number a b = .eq := h
    simp only [compareOn, Std.LawfulEqOrd.compare_eq_iff_eq] at h
    cases a
    cases b
    simp_all

/-- Edges are ordered by their numbers. -/
instance : Ord EdgeId := ⟨compareOn EdgeId.number⟩

instance : Std.TransOrd EdgeId := inferInstanceAs (Std.TransCmp (compareOn EdgeId.number))

instance : Std.LawfulEqOrd EdgeId where
  eq_of_compare := by
    intro a b h
    have h : compareOn EdgeId.number a b = .eq := h
    simp only [compareOn, Std.LawfulEqOrd.compare_eq_iff_eq] at h
    cases a
    cases b
    simp_all

/-- The number of an entity as it is shown. -/
def EntityId.text (id : EntityId) : String := s!"#{id.number}"

/-- The number of an edge as it is shown. -/
def EdgeId.text (id : EdgeId) : String := s!"#{id.number}"

/-- A set of entities, in the order of their numbers. -/
abbrev EntitySet := Std.ExtTreeSet EntityId

/-- A set of edges, in the order of their numbers. -/
abbrev EdgeSet := Std.ExtTreeSet EdgeId

/-- An instance of a registered type. -/
structure Entity where
  /-- The number of the entity. -/
  id : EntityId
  /-- The name of its type. -/
  typeTag : String
  /-- The roles that it carries. -/
  roles : NameSet

/-- What an edge says: two entities and how the first is related to the second. -/
structure Link where
  /-- The entity that the edge leaves. -/
  source : EntityId
  /-- The entity that the edge arrives at. -/
  target : EntityId
  /-- The kind of the relation. -/
  kind : RelationKind
  /-- The name of the reference, usually that of a field. -/
  label : Option String := none
  /-- The multiplicity, where one is stated. -/
  cardinality : Option Cardinality := none
deriving DecidableEq, Repr, Inhabited

/-- A link with a number. -/
structure Edge extends Link where
  /-- The number of the edge. -/
  id : EdgeId
deriving DecidableEq, Repr, Inhabited

/-- Something that a request can name. -/
inductive Handle where
  /-- An entity. -/
  | entity (id : EntityId)
  /-- An edge. -/
  | edge (id : EdgeId)
deriving DecidableEq, Repr

/-- A handle as it is shown. -/
def Handle.text : Handle → String
  | .entity id => "entity " ++ id.text
  | .edge id => "edge " ++ id.text

/-- Why a request to a graph is refused. -/
inductive GraphError where
  /-- The entity or edge was never there or is gone. -/
  | unknown (handle : Handle)
  /-- The target is a part of another entity already. -/
  | ownershipConflict (target owner : EntityId)
  /-- The child is the parent or has it among its parts. -/
  | cycle (parent child : EntityId)
  /-- Two associations of one label, one of which allows a single target. -/
  | cardinality (holder : EntityId) (label : Option String)
  /-- The type cannot have an instance with these roles. -/
  | contract (error : ContractError)
  /-- A writer failed while it held the lock. -/
  | poisoned
deriving DecidableEq, Repr

/-- The wording of a refusal. -/
def GraphError.message : GraphError → String
  | .unknown handle => s!"unknown or deleted {handle.text}"
  | .ownershipConflict target owner => s!"{target.text} is already composed by {owner.text}"
  | .cycle parent child => s!"composing {child.text} under {parent.text} would create a cycle"
  | .cardinality holder label =>
    let shown := Text.quotedOption label
    s!"{holder.text} already holds an association labeled {shown} with cardinality one"
  | .contract error => error.message
  | .poisoned => "graph lock poisoned"

/-- Entities and the edges between them. -/
structure EntityGraph where
  /-- The types and roles that entities are made of. -/
  registry : Registry
  /-- The live entities. -/
  entities : Std.ExtTreeMap EntityId Entity := ∅
  /-- The live edges. -/
  edges : Std.ExtTreeMap EdgeId Edge := ∅
  /-- The edges that leave an entity. -/
  outgoing : Std.ExtTreeMap EntityId EdgeSet := ∅
  /-- The edges that arrive at an entity. -/
  incoming : Std.ExtTreeMap EntityId EdgeSet := ∅
  /-- The edge that composes an entity. -/
  composer : Std.ExtTreeMap EntityId EdgeId := ∅
  /-- The number of the next entity. -/
  nextEntity : Nat := 1
  /-- The number of the next edge. -/
  nextEdge : Nat := 1

namespace EntityGraph

/-- The graph without entities. -/
def empty (registry : Registry) : EntityGraph := { registry }

/-- Whether an entity is live. -/
def contains (g : EntityGraph) (id : EntityId) : Bool := g.entities.contains id

/-- The live edges among those of an index. -/
def indexed (g : EntityGraph) (ids : Option EdgeSet) : List Edge :=
  (ids.elim [] (·.toList)).filterMap fun id => g.edges[id]?

/-- The edges that leave an entity, oldest first. -/
def edgesFrom (g : EntityGraph) (id : EntityId) : List Edge := g.indexed g.outgoing[id]?

/-- The edges that arrive at an entity, oldest first. -/
def edgesTo (g : EntityGraph) (id : EntityId) : List Edge := g.indexed g.incoming[id]?

/-- The entity that an entity is a part of. -/
def composerOf (g : EntityGraph) (id : EntityId) : Option EntityId :=
  (g.composer[id]?.bind fun edge => g.edges[edge]?).map (·.source)

/-- The parts of an entity, in the order of their edges. -/
def partsOf (g : EntityGraph) (id : EntityId) : List EntityId :=
  ((g.edgesFrom id).filter fun e => e.kind == .composition).map (·.target)

/-- Whether a live entity carries a role. -/
def satisfies (g : EntityGraph) (id : EntityId) (role : String) : Except GraphError Bool :=
  match g.entities[id]? with
  | none => .error (.unknown (.entity id))
  | some entity => .ok (entity.roles.contains role)

/-- Refuses an entity that is not live. -/
def requireLive (g : EntityGraph) (id : EntityId) : Except GraphError Unit :=
  if g.contains id then .ok () else .error (.unknown (.entity id))

end EntityGraph

end ClassGraph
