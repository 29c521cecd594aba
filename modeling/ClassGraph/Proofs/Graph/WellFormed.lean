import ClassGraph.Proofs.Graph.Index

/-!
# Well-formed entity graphs

`WellFormed` is the invariant of a graph: entities and edges are stored under their own numbers,
edges join live entities, the indexes have the live entities as their keys and agree with the edges,
compositions have no cycle, and numbers in use are below the counters. In a well-formed graph a
query that goes through an index answers as a scan of all edges would (`edgesFrom_eq_filter`,
`edgesTo_eq_filter`, `composerOf_eq_find?`).
-/

namespace ClassGraph.EntityGraph

/-- Every edge, oldest first. -/
def allEdges (g : EntityGraph) : List Edge := g.edges.toList.map Prod.snd

/-- The entities, the edges and the indexes of a graph fit together, and compositions are a
forest. -/
structure WellFormed (g : EntityGraph) : Prop where
  /-- Every entity is stored under its own number. -/
  entity_id : ∀ {x : EntityId} {entity : Entity}, g.entities[x]? = some entity → entity.id = x
  /-- Every edge leaves a live entity. -/
  source_live : ∀ {i : EdgeId} {e : Edge}, g.edges[i]? = some e → e.source ∈ g.entities
  /-- Every edge arrives at a live entity. -/
  target_live : ∀ {i : EdgeId} {e : Edge}, g.edges[i]? = some e → e.target ∈ g.entities
  /-- The indexes agree with the edges and have the live entities as keys. -/
  indexed : g.Indexed (· ∈ g.entities)
  /-- No entity is a part of itself, directly or not. -/
  acyclic : Acyclic g.Composes
  /-- Live entities have numbers that were handed out. -/
  entity_lt : ∀ {x : EntityId}, x ∈ g.entities → x.number < g.nextEntity
  /-- Stored edges have numbers that were handed out. -/
  edge_lt : ∀ {i : EdgeId}, i ∈ g.edges → i.number < g.nextEdge

/-- An entity is contained in a graph when it is live. -/
theorem contains_iff (g : EntityGraph) (x : EntityId) : g.contains x = true ↔ x ∈ g.entities :=
  Std.ExtTreeMap.mem_iff_contains.symm

/-- A live entity may take part. -/
theorem requireLive_of_mem {g : EntityGraph} {x : EntityId} (hx : x ∈ g.entities) :
    g.requireLive x = .ok () := by
  unfold requireLive
  rw [if_pos ((contains_iff g x).mpr hx)]

/-- An entity that is not live is unknown. -/
theorem requireLive_of_notMem {g : EntityGraph} {x : EntityId} (hx : x ∉ g.entities) :
    g.requireLive x = .error (.unknown (.entity x)) := by
  unfold requireLive
  rw [if_neg fun hc => hx ((contains_iff g x).mp hc)]

/-- All edges are those that stand under some number. -/
theorem mem_allEdges {g : EntityGraph} {e : Edge} :
    e ∈ g.allEdges ↔ ∃ i : EdgeId, g.edges[i]? = some e := by
  simp [allEdges]

/-- A graph without edges composes nothing. -/
theorem acyclic_of_edges_eq_empty {g : EntityGraph} (h : g.edges = ∅) : Acyclic g.Composes := by
  intro x hx
  obtain ⟨y, -, i, e, he, -⟩ := Relation.TransGen.tail'_iff.mp hx
  simp [h] at he

/-- The graph without entities is well-formed. -/
theorem wellFormed_empty (registry : Registry) : (EntityGraph.empty registry).WellFormed where
  entity_id h := by simp [EntityGraph.empty] at h
  source_live h := by simp [EntityGraph.empty] at h
  target_live h := by simp [EntityGraph.empty] at h
  indexed := by
    constructor <;> simp [EntityGraph.empty, ComposerIndex]
    · constructor <;> simp
    · constructor <;> simp
  acyclic := acyclic_of_edges_eq_empty rfl
  entity_lt h := by simp [EntityGraph.empty] at h
  edge_lt h := by simp [EntityGraph.empty] at h

/-! ## The index of compositions as a view of the edges -/

/-- Through an index of compositions that agrees with the edges, the entity that an entity is a part
of is the one that composes it. -/
theorem ComposerIndex.composerOf_eq_some_iff {g : EntityGraph}
    (h : ComposerIndex g.composer g.edges) {part owner : EntityId} :
    g.composerOf part = some owner ↔ g.Composes owner part := by
  unfold composerOf Composes
  constructor
  · intro ho
    obtain ⟨e, hbind, rfl⟩ := Option.map_eq_some_iff.mp ho
    obtain ⟨i, hi, he⟩ := Option.bind_eq_some_iff.mp hbind
    obtain ⟨e', he', hkind, rfl⟩ := (h part i).mp hi
    obtain rfl := Option.some.inj (he'.symm.trans he)
    exact ⟨i, e', he, hkind, rfl, rfl⟩
  · rintro ⟨i, e, he, hkind, rfl, rfl⟩
    have hi := (h e.target i).mpr ⟨e, he, hkind, rfl⟩
    rw [hi, Option.bind_some, he, Option.map_some]

/-- An index of compositions that agrees with the edges has room for one composition of each
entity. -/
theorem ComposerIndex.edge_eq_of_target_eq {composer : Std.ExtTreeMap EntityId EdgeId}
    {edges : Std.ExtTreeMap EdgeId Edge} (h : ComposerIndex composer edges) {i j : EdgeId}
    {e f : Edge} (he : edges[i]? = some e) (hf : edges[j]? = some f) (hek : e.kind = .composition)
    (hfk : f.kind = .composition) (ht : e.target = f.target) : i = j := by
  have hi := (h e.target i).mpr ⟨e, he, hek, rfl⟩
  have hj := (h e.target j).mpr ⟨f, hf, hfk, ht.symm⟩
  exact Option.some.inj (hi.symm.trans hj)

namespace WellFormed

variable {g : EntityGraph}

/-! ## The edges of an entity -/

/-- An index that agrees with the edges lists, for an entity, all edges with this endpoint. -/
theorem indexed_eq_filter {index : Std.ExtTreeMap EntityId EdgeSet} {endpoint : Edge → EntityId}
    (hindex : IndexOf index (· ∈ g.entities) g.edges endpoint)
    (hlive : ∀ {i : EdgeId} {e : Edge}, g.edges[i]? = some e → endpoint e ∈ g.entities)
    (x : EntityId) : g.indexed index[x]? = g.allEdges.filter fun e => endpoint e = x := by
  unfold EntityGraph.indexed allEdges
  cases hx : index[x]? with
  | some ids =>
    apply Ordered.filterMap_toList_eq_filter
    intro i
    simpa using hindex.mem_ids hx i
  | none =>
    -- Only live entities are keys, and an end of an edge is live.
    rw [getElem?_eq_none_iff, hindex.mem_index] at hx
    rw [Option.elim_none, List.filterMap_nil, eq_comm, List.filter_eq_nil_iff]
    intro e he hex
    obtain ⟨i, hi⟩ := mem_allEdges.mp he
    exact hx (of_decide_eq_true hex ▸ hlive hi)

/-- The edges that leave an entity are those that a scan of all edges finds. -/
theorem edgesFrom_eq_filter (h : g.WellFormed) (x : EntityId) :
    g.edgesFrom x = g.allEdges.filter fun e => e.source = x :=
  indexed_eq_filter h.indexed.outgoing h.source_live x

/-- The edges that arrive at an entity are those that a scan of all edges finds. -/
theorem edgesTo_eq_filter (h : g.WellFormed) (x : EntityId) :
    g.edgesTo x = g.allEdges.filter fun e => e.target = x :=
  indexed_eq_filter h.indexed.incoming h.target_live x

/-- The edges from an entity are those that have it as their source. -/
theorem mem_edgesFrom (h : g.WellFormed) {x : EntityId} {e : Edge} :
    e ∈ g.edgesFrom x ↔ (∃ i : EdgeId, g.edges[i]? = some e) ∧ e.source = x := by
  rw [h.edgesFrom_eq_filter, List.mem_filter, mem_allEdges, decide_eq_true_iff]

/-! ## The owner of an entity -/

/-- The entity that an entity is a part of is the one that composes it. -/
theorem composerOf_eq_some_iff (h : g.WellFormed) {part owner : EntityId} :
    g.composerOf part = some owner ↔ g.Composes owner part :=
  h.indexed.composer.composerOf_eq_some_iff

/-- An entity has no composer when nothing composes it. -/
theorem composerOf_eq_none_iff (h : g.WellFormed) {part : EntityId} :
    g.composerOf part = none ↔ ∀ owner, ¬ g.Composes owner part := by
  rw [Option.eq_none_iff_forall_ne_some]
  exact forall_congr' fun owner => not_congr h.composerOf_eq_some_iff

/-- Two compositions of one entity are the same edge. -/
theorem edge_eq_of_target_eq (h : g.WellFormed) {i j : EdgeId} {e f : Edge}
    (he : g.edges[i]? = some e) (hf : g.edges[j]? = some f) (hek : e.kind = .composition)
    (hfk : f.kind = .composition) (ht : e.target = f.target) : i = j :=
  h.indexed.composer.edge_eq_of_target_eq he hf hek hfk ht

/-- An entity has at most one owner. -/
theorem owner_unique (h : g.WellFormed) {owner owner' part : EntityId}
    (ho : g.Composes owner part) (ho' : g.Composes owner' part) : owner = owner' :=
  Option.some.inj ((h.composerOf_eq_some_iff.mpr ho).symm.trans (h.composerOf_eq_some_iff.mpr ho'))

/-- The owner of an entity is the one that a scan of all edges finds. -/
theorem composerOf_eq_find? (h : g.WellFormed) (part : EntityId) :
    g.composerOf part =
      (g.allEdges.find? fun e => e.kind = .composition ∧ e.target = part).map (·.source) := by
  cases hfind : g.allEdges.find? fun e => e.kind = .composition ∧ e.target = part with
  | none =>
    rw [Option.map_none, h.composerOf_eq_none_iff]
    rintro owner ⟨i, e, he, hkind, -, rfl⟩
    have := List.find?_eq_none.mp hfind e (mem_allEdges.mpr ⟨i, he⟩)
    simp [hkind] at this
  | some e =>
    obtain ⟨i, hi⟩ := mem_allEdges.mp (List.mem_of_find?_eq_some hfind)
    have hmatch := List.find?_some hfind
    rw [decide_eq_true_iff] at hmatch
    exact h.composerOf_eq_some_iff.mpr ⟨i, e, hi, hmatch.1, rfl, hmatch.2⟩

/-! ## The parts of an entity -/

/-- The parts of an entity are what it composes. -/
theorem mem_partsOf (h : g.WellFormed) {owner part : EntityId} :
    part ∈ g.partsOf owner ↔ g.Composes owner part := by
  simp only [partsOf, List.mem_map, List.mem_filter, h.mem_edgesFrom, beq_iff_eq]
  constructor
  · rintro ⟨e, ⟨⟨⟨i, hi⟩, hs⟩, hkind⟩, ht⟩
    exact ⟨i, e, hi, hkind, hs, ht⟩
  · rintro ⟨i, e, hi, hkind, hs, ht⟩
    exact ⟨e, ⟨⟨⟨i, hi⟩, hs⟩, hkind⟩, ht⟩

/-- Both ends of a composition are live. -/
theorem live_of_composes (h : g.WellFormed) {owner part : EntityId} (hc : g.Composes owner part) :
    owner ∈ g.entities ∧ part ∈ g.entities := by
  obtain ⟨i, e, he, -, rfl, rfl⟩ := hc
  exact ⟨h.source_live he, h.target_live he⟩

/-- The parts of a live entity, direct or not, are live. -/
theorem live_of_chain (h : g.WellFormed) {x y : EntityId} (hx : x ∈ g.entities)
    (hchain : Relation.ReflTransGen g.Composes x y) : y ∈ g.entities := by
  rcases hchain.cases_tail with rfl | ⟨owner, -, hc⟩
  · exact hx
  · exact (h.live_of_composes hc).2

end WellFormed

end ClassGraph.EntityGraph
