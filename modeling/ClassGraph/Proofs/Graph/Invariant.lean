import ClassGraph.Graph.Request
import ClassGraph.Proofs.Graph.Rule
import ClassGraph.Proofs.Outcome

/-!
# The invariant of entity graphs

Every request keeps a graph well-formed, granted or refused, and so does every history
(`WellFormed.run`). A new composition keeps the forest because `link` refuses an entity that has an
owner and one that owns the source. A deletion is looked at one entity at a time: `detach` takes an
entity out of the indexes, then each edge that touches it (`dropEdges`), and then the entity itself.
-/

open Relation

namespace ClassGraph.EntityGraph

/-! ## New entities -/

/-- The number of the next entity is free. -/
theorem WellFormed.nextEntity_notMem {g : EntityGraph} (h : g.WellFormed) :
    (⟨g.nextEntity⟩ : EntityId) ∉ g.entities :=
  fun hmem => Nat.lt_irrefl _ (h.entity_lt hmem)

/-- The number of the next edge is free. -/
theorem WellFormed.getElem?_nextEdge {g : EntityGraph} (h : g.WellFormed) :
    g.edges[(⟨g.nextEdge⟩ : EdgeId)]? = none :=
  (getElem?_eq_none_iff _ _).mpr fun hmem => Nat.lt_irrefl _ (h.edge_lt hmem)

/-- What a granted creation returns and leaves behind. -/
theorem create_eq_ok_iff {g g' : EntityGraph} {tag : String} {roles : List String}
    {x : EntityId} :
    g.create tag roles = .ok (x, g') ↔
      ∃ all, g.registry.rolesOfInstance tag roles = .ok all ∧ x = ⟨g.nextEntity⟩ ∧
        g' = { g with
          entities := g.entities.insert x { id := x, typeTag := tag, roles := all }
          outgoing := g.outgoing.insert x ∅
          incoming := g.incoming.insert x ∅
          nextEntity := g.nextEntity + 1 } := by
  unfold create
  cases hroles : g.registry.rolesOfInstance tag roles with
  | error e => simp
  | ok all =>
    simp only [Except.ok.injEq, Prod.mk.injEq, exists_eq_left']
    constructor
    · rintro ⟨rfl, rfl⟩
      exact ⟨rfl, rfl⟩
    · rintro ⟨rfl, rfl⟩
      exact ⟨rfl, rfl⟩

/-- A graph stays well-formed when an entity is created. -/
theorem WellFormed.create {g g' : EntityGraph} (h : g.WellFormed) {tag : String}
    {roles : List String} {x : EntityId} (hc : g.create tag roles = .ok (x, g')) :
    g'.WellFormed := by
  obtain ⟨all, -, hx, rfl⟩ := create_eq_ok_iff.mp hc
  -- The new entity was not live, so that no stored edge touches it.
  have hfree : x ∉ g.entities := hx ▸ h.nextEntity_notMem
  refine {
    entity_id := ?_
    source_live := fun he => (Ordered.mem_insert ..).mpr (.inr (h.source_live he))
    target_live := fun he => (Ordered.mem_insert ..).mpr (.inr (h.target_live he))
    indexed := ?_
    acyclic := h.acyclic
    entity_lt := ?_
    edge_lt := h.edge_lt }
  · intro y entity hy
    rw [Ordered.getElem?_insert] at hy
    split_ifs at hy with hyx
    · obtain rfl := Option.some.inj hy
      exact hyx.symm
    · exact h.entity_id hy
  · constructor
    · exact h.indexed.edge_id
    · refine (h.indexed.outgoing.insertHolder ?_).congr_holders fun y =>
        (Ordered.mem_insert ..).symm
      rintro i e he rfl
      exact hfree (h.source_live he)
    · refine (h.indexed.incoming.insertHolder ?_).congr_holders fun y =>
        (Ordered.mem_insert ..).symm
      rintro i e he rfl
      exact hfree (h.target_live he)
    · exact h.indexed.composer
  · intro y hy
    rcases (Ordered.mem_insert ..).mp hy with rfl | hy
    · exact hx ▸ Nat.lt_succ_self _
    · exact Nat.lt_succ_of_lt (h.entity_lt hy)

/-! ## New edges -/

/-- A new edge has the next number, and the others stay under theirs. -/
theorem getElem?_edges_insertEdge (g : EntityGraph) (l : Link) (i : EdgeId) :
    (g.insertEdge l).2.edges[i]? =
      if i = ⟨g.nextEdge⟩ then some { toLink := l, id := ⟨g.nextEdge⟩ } else g.edges[i]? :=
  Ordered.getElem?_insert ..

/-- Behind a new edge there are the edges that were there and the new one. -/
theorem edge_of_insertEdge {g : EntityGraph} {l : Link} {i : EdgeId} {e : Edge}
    (he : (g.insertEdge l).2.edges[i]? = some e) :
    g.edges[i]? = some e ∨ i = ⟨g.nextEdge⟩ ∧ e = { toLink := l, id := ⟨g.nextEdge⟩ } := by
  rw [getElem?_edges_insertEdge] at he
  split_ifs at he with hi
  · exact .inr ⟨hi, (Option.some.inj he).symm⟩
  · exact .inl he

/-- A new edge takes the place of none. -/
theorem WellFormed.edges_insertEdge_of_edges {g : EntityGraph} (h : g.WellFormed) (l : Link)
    {i : EdgeId} {e : Edge} (he : g.edges[i]? = some e) :
    (g.insertEdge l).2.edges[i]? = some e := by
  have hi : i ≠ ⟨g.nextEdge⟩ := by
    rintro rfl
    simp [h.getElem?_nextEdge] at he
  rw [getElem?_edges_insertEdge, if_neg hi, he]

/-- A new edge is the newest. -/
theorem WellFormed.allEdges_insertEdge {g : EntityGraph} (h : g.WellFormed) (l : Link) :
    (g.insertEdge l).2.allEdges = g.allEdges ++ [{ toLink := l, id := ⟨g.nextEdge⟩ }] := by
  have hlast : ∀ i ∈ g.edges, compare i (⟨g.nextEdge⟩ : EdgeId) = .lt :=
    fun i hi => Nat.compare_eq_lt.mpr (h.edge_lt hi)
  unfold allEdges insertEdge
  rw [Ordered.toList_insert_of_lt hlast, List.map_append, List.map_singleton]

/-- What is said of some edge behind a new one is said of an edge that was there or of the new
one. -/
theorem exists_edge_insertEdge {g : EntityGraph} (h : g.WellFormed) (l : Link) (p : Edge → Prop) :
    (∃ (i : EdgeId) (e : Edge), (g.insertEdge l).2.edges[i]? = some e ∧ p e) ↔
      (∃ (i : EdgeId) (e : Edge), g.edges[i]? = some e ∧ p e) ∨
        p { toLink := l, id := ⟨g.nextEdge⟩ } := by
  constructor
  · rintro ⟨i, e, he, hp⟩
    rcases edge_of_insertEdge he with he | ⟨-, rfl⟩
    · exact .inl ⟨i, e, he, hp⟩
    · exact .inr hp
  · rintro (⟨i, e, he, hp⟩ | hp)
    · exact ⟨i, e, h.edges_insertEdge_of_edges l he, hp⟩
    · exact ⟨⟨g.nextEdge⟩, _, by rw [getElem?_edges_insertEdge, if_pos rfl], hp⟩

/-- A new edge composes what was composed before, and its target by its source when it is a
composition. -/
theorem composes_insertEdge {g : EntityGraph} (h : g.WellFormed) (l : Link)
    (owner part : EntityId) :
    (g.insertEdge l).2.Composes owner part ↔
      g.Composes owner part ∨ l.kind = .composition ∧ l.source = owner ∧ l.target = part :=
  exists_edge_insertEdge h l _

/-- A link that passes the rule of its kind keeps compositions acyclic. -/
theorem WellFormed.acyclic_insertEdge {g : EntityGraph} (h : g.WellFormed) {l : Link}
    (hchain : l.kind = .composition → ¬ ReflTransGen g.Composes l.target l.source) :
    Acyclic (g.insertEdge l).2.Composes := by
  by_cases hkind : l.kind = .composition
  · have hacyclic := acyclic_insert_iff.mpr ⟨h.acyclic, hchain hkind⟩
    refine hacyclic.mono fun x y hc => ?_
    simpa [hkind, eq_comm] using (composes_insertEdge h l x y).mp hc
  · exact h.acyclic.mono fun x y hc => by simpa [hkind] using (composes_insertEdge h l x y).mp hc

/-- A new edge between live entities keeps a graph well-formed when its target, for a composition,
has no owner and does not own its source. -/
theorem WellFormed.insertEdge {g : EntityGraph} (h : g.WellFormed) {l : Link}
    (hs : l.source ∈ g.entities) (ht : l.target ∈ g.entities)
    (hfree : l.kind = .composition → ∀ owner, ¬ g.Composes owner l.target)
    (hchain : l.kind = .composition → ¬ ReflTransGen g.Composes l.target l.source) :
    (g.insertEdge l).2.WellFormed := by
  have hnew := h.getElem?_nextEdge
  refine {
    entity_id := h.entity_id
    source_live := ?_
    target_live := ?_
    indexed := ?_
    acyclic := h.acyclic_insertEdge hchain
    entity_lt := h.entity_lt
    edge_lt := ?_ }
  · intro i e he
    rcases edge_of_insertEdge he with he | ⟨-, rfl⟩
    · exact h.source_live he
    · exact hs
  · intro i e he
    rcases edge_of_insertEdge he with he | ⟨-, rfl⟩
    · exact h.target_live he
    · exact ht
  · constructor
    · intro i e he
      rcases edge_of_insertEdge he with he | ⟨rfl, rfl⟩
      · exact h.indexed.edge_id he
      · rfl
    · exact h.indexed.outgoing.insertEdge (e := { toLink := l, id := ⟨g.nextEdge⟩ }) hs hnew
    · exact h.indexed.incoming.insertEdge (e := { toLink := l, id := ⟨g.nextEdge⟩ }) ht hnew
    · refine h.indexed.composer.insertEdge (e := { toLink := l, id := ⟨g.nextEdge⟩ }) hnew ?_
      -- An entry of the target would name a composition that gives it an owner.
      intro hkind
      refine Option.eq_none_iff_forall_ne_some.mpr fun i hi => ?_
      obtain ⟨e, he, hek, het⟩ := (h.indexed.composer _ i).mp hi
      exact hfree hkind e.source ⟨i, e, he, hek, rfl, het⟩
  · intro i hi
    rcases (Ordered.mem_insert ..).mp hi with rfl | hi
    · exact Nat.lt_succ_self _
    · exact Nat.lt_succ_of_lt (h.edge_lt hi)

/-- Between live entities a link is checked and stored. -/
theorem link_of_live {g : EntityGraph} {l : Link} (hs : l.source ∈ g.entities)
    (ht : l.target ∈ g.entities) : g.link l = (g.checkKind l).map fun _ => g.insertEdge l := by
  unfold link
  rw [requireLive_of_mem hs, Outcome.ok_bind, requireLive_of_mem ht, Outcome.ok_bind]
  cases g.checkKind l <;> rfl

/-- A link whose source is not live is refused for that. -/
theorem link_of_source_notMem {g : EntityGraph} {l : Link} (hs : l.source ∉ g.entities) :
    g.link l = .error (.unknown (.entity l.source)) := by
  unfold link
  rw [requireLive_of_notMem hs, Outcome.error_bind]

/-- A link from a live entity whose target is not live is refused for that. -/
theorem link_of_target_notMem {g : EntityGraph} {l : Link} (hs : l.source ∈ g.entities)
    (ht : l.target ∉ g.entities) : g.link l = .error (.unknown (.entity l.target)) := by
  unfold link
  rw [requireLive_of_mem hs, Outcome.ok_bind, requireLive_of_notMem ht, Outcome.error_bind]

/-- What a granted link has passed, and what it leaves behind. -/
theorem link_eq_ok_iff {g : EntityGraph} {l : Link} {result : EdgeId × EntityGraph} :
    g.link l = .ok result ↔ l.source ∈ g.entities ∧ l.target ∈ g.entities ∧
      g.checkKind l = .ok () ∧ result = g.insertEdge l := by
  by_cases hs : l.source ∈ g.entities
  · by_cases ht : l.target ∈ g.entities
    · rw [link_of_live hs ht, Outcome.map_eq_ok_iff, and_iff_right hs, and_iff_right ht]
      exact ⟨fun ⟨_, hcheck, heq⟩ => ⟨hcheck, heq.symm⟩,
        fun ⟨hcheck, heq⟩ => ⟨(), hcheck, heq.symm⟩⟩
    · simp [link_of_target_notMem hs ht, ht]
  · simp [link_of_source_notMem hs, hs]

/-- A graph stays well-formed when two entities are linked. -/
theorem WellFormed.link {g g' : EntityGraph} (h : g.WellFormed) {l : Link} {i : EdgeId}
    (hl : g.link l = .ok (i, g')) : g'.WellFormed := by
  obtain ⟨hs, ht, hok, heq⟩ := link_eq_ok_iff.mp hl
  obtain rfl : g' = (g.insertEdge l).2 := congrArg Prod.snd heq
  have hrule := (h.checkKind_eq_ok_iff.mp hok).1
  exact h.insertEdge hs ht (fun hkind => (hrule hkind).1) fun hkind => (hrule hkind).2

/-! ## Edges that go -/

/-- Without some of its edges a graph composes less. -/
theorem Composes.of_edges {g g' : EntityGraph} {owner part : EntityId}
    (hedges : ∀ {i : EdgeId} {e : Edge}, g'.edges[i]? = some e → g.edges[i]? = some e)
    (hc : g'.Composes owner part) : g.Composes owner part := by
  obtain ⟨i, e, he, hrest⟩ := hc
  exact ⟨i, e, hedges he, hrest⟩

/-- An edge that is there without another was there before. -/
theorem getElem?_edges_dropEdge {g : EntityGraph} {e f : Edge} {i : EdgeId}
    (hi : (g.dropEdge e).edges[i]? = some f) : g.edges[i]? = some f := by
  unfold dropEdge at hi
  rw [Ordered.getElem?_erase] at hi
  split_ifs at hi
  exact hi

/-- The indexes agree with the edges when an edge and its entries are dropped. -/
theorem Indexed.dropEdge {g : EntityGraph} {holders : EntityId → Prop} (h : g.Indexed holders)
    {e : Edge} (he : g.edges[e.id]? = some e) : (g.dropEdge e).Indexed holders where
  edge_id hi := h.edge_id (getElem?_edges_dropEdge hi)
  outgoing := h.outgoing.eraseEdge he
  incoming := h.incoming.eraseEdge he
  composer := h.composer.eraseEdge he

/-- A graph stays well-formed when an edge is removed. -/
theorem WellFormed.unlink {g g' : EntityGraph} (h : g.WellFormed) {i : EdgeId} {e : Edge}
    (hu : g.unlink i = .ok (e, g')) : g'.WellFormed := by
  unfold EntityGraph.unlink at hu
  cases he : g.edges[i]? with
  | none => simp [he] at hu
  | some e' =>
    simp only [he, Except.ok.injEq, Prod.mk.injEq] at hu
    obtain ⟨rfl, rfl⟩ := hu
    obtain rfl := h.indexed.edge_id he
    exact {
      entity_id := h.entity_id
      source_live := fun hi => h.source_live (getElem?_edges_dropEdge hi)
      target_live := fun hi => h.target_live (getElem?_edges_dropEdge hi)
      indexed := h.indexed.dropEdge he
      acyclic := h.acyclic.mono fun _ _ hc => hc.of_edges getElem?_edges_dropEdge
      entity_lt := h.entity_lt
      edge_lt := fun hi => h.edge_lt ((Ordered.mem_erase ..).mp hi).1 }

/-! ## Entities that go -/

/-- The graph without some of its edges. -/
def dropEdges (g : EntityGraph) (ids : List EdgeId) : EntityGraph :=
  ids.foldl (fun g i => match g.edges[i]? with | none => g | some e => g.dropEdge e) g

/-- Dropping edges takes the named edges and leaves the entities and the counters. -/
theorem dropEdges_spec {holders : EntityId → Prop} (ids : List EdgeId) :
    ∀ {g : EntityGraph}, g.Indexed holders →
      (g.dropEdges ids).Indexed holders ∧
        (∀ i : EdgeId, (g.dropEdges ids).edges[i]? = if i ∈ ids then none else g.edges[i]?) ∧
        (g.dropEdges ids).registry = g.registry ∧ (g.dropEdges ids).entities = g.entities ∧
        (g.dropEdges ids).nextEntity = g.nextEntity ∧ (g.dropEdges ids).nextEdge = g.nextEdge := by
  induction ids with
  | nil => exact fun h => ⟨h, fun i => by simp [dropEdges], rfl, rfl, rfl, rfl⟩
  | cons j ids ih =>
    intro g h
    cases hj : g.edges[j]? with
    | none =>
      -- An edge that is gone already is passed over.
      have hstep : g.dropEdges (j :: ids) = g.dropEdges ids := by simp [dropEdges, hj]
      obtain ⟨hindexed, hedges, hrest⟩ := ih h
      rw [hstep]
      refine ⟨hindexed, fun i => ?_, hrest⟩
      rw [hedges]
      by_cases hi : i = j
      · simp [hi, hj]
      · simp [hi]
    | some e =>
      obtain rfl := h.edge_id hj
      have hstep : g.dropEdges (e.id :: ids) = (g.dropEdge e).dropEdges ids := by
        simp [dropEdges, hj]
      obtain ⟨hindexed, hedges, hrest⟩ := ih (h.dropEdge hj)
      rw [hstep]
      refine ⟨hindexed, fun i => ?_, hrest⟩
      rw [hedges]
      unfold dropEdge
      rw [Ordered.getElem?_erase]
      by_cases hi : i = e.id
      · simp [hi]
      · simp [hi]

/-- The edges that the indexes name for an entity. -/
def touching (g : EntityGraph) (x : EntityId) : List EdgeId :=
  (g.outgoing[x]?.getD ∅ ∪ g.incoming[x]?.getD ∅ : EdgeSet).toList

/-- The graph with an entity taken out of the indexes of edges. -/
def unindex (g : EntityGraph) (x : EntityId) : EntityGraph :=
  { g with outgoing := g.outgoing.erase x, incoming := g.incoming.erase x }

/-- The indexes name the edges that touch an entity. -/
theorem WellFormed.mem_touching {g : EntityGraph} (h : g.WellFormed) (x : EntityId) (i : EdgeId) :
    i ∈ g.touching x ↔ ∃ e : Edge, g.edges[i]? = some e ∧ (e.source = x ∨ e.target = x) := by
  -- The two indexes differ in the endpoint only.
  have hside : ∀ {index : Std.ExtTreeMap EntityId EdgeSet} {endpoint : Edge → EntityId},
      IndexOf index (· ∈ g.entities) g.edges endpoint →
      (∀ {i : EdgeId} {e : Edge}, g.edges[i]? = some e → endpoint e ∈ g.entities) →
      (i ∈ (index[x]?.getD ∅ : EdgeSet) ↔ ∃ e : Edge, g.edges[i]? = some e ∧ endpoint e = x) := by
    intro index endpoint hindex hlive
    cases hx : index[x]? with
    | some ids => exact hindex.mem_ids hx i
    | none =>
      rw [getElem?_eq_none_iff, hindex.mem_index] at hx
      refine iff_of_false Std.ExtTreeSet.not_mem_empty ?_
      rintro ⟨e, he, rfl⟩
      exact hx (hlive he)
  unfold touching
  rw [Std.ExtTreeSet.mem_toList, Std.ExtTreeSet.mem_union_iff,
    hside h.indexed.outgoing h.source_live, hside h.indexed.incoming h.target_live, ← exists_or]
  exact exists_congr fun e => and_or_left.symm

/-- Detaching an entity takes it and the edges that touch it, leaves the counters, and leaves
indexes that agree with the remaining edges and hold the remaining entities. -/
theorem WellFormed.detach_spec {g : EntityGraph} (h : g.WellFormed) (x : EntityId) :
    (g.detach x).Indexed (fun y => y ∈ g.entities ∧ y ≠ x) ∧
      (g.detach x).entities = g.entities.erase x ∧
      (∀ i : EdgeId, (g.detach x).edges[i]? =
        g.edges[i]?.filter fun e => e.source ≠ x ∧ e.target ≠ x) ∧
      (g.detach x).registry = g.registry ∧ (g.detach x).nextEntity = g.nextEntity ∧
      (g.detach x).nextEdge = g.nextEdge := by
  -- Between the entity's going from the indexes and from the entities, the holders are all others.
  have hunindexed : (g.unindex x).Indexed fun y => y ∈ g.entities ∧ y ≠ x :=
    ⟨h.indexed.edge_id, h.indexed.outgoing.eraseHolder x, h.indexed.incoming.eraseHolder x,
      h.indexed.composer⟩
  obtain ⟨hindexed, hedges, hregistry, hentities, hnextEntity, hnextEdge⟩ :=
    dropEdges_spec (g.touching x) hunindexed
  refine ⟨⟨hindexed.edge_id, hindexed.outgoing, hindexed.incoming, hindexed.composer⟩,
    congrArg (fun entities => entities.erase x) hentities, fun i => ?_, hregistry, hnextEntity,
    hnextEdge⟩
  refine (hedges i).trans ?_
  simp only [h.mem_touching]
  change (if _ then none else g.edges[i]?) = _
  cases he : g.edges[i]? with
  | none => simp
  | some e =>
    rw [Option.filter_some]
    by_cases hs : e.source = x
    · simp [hs]
    · by_cases ht : e.target = x
      · simp [ht]
      · simp [hs, ht]

/-- Detaching an entity keeps a graph well-formed. -/
theorem WellFormed.detach {g : EntityGraph} (h : g.WellFormed) (x : EntityId) :
    (g.detach x).WellFormed := by
  obtain ⟨hindexed, hentities, hedges, -, hnextEntity, hnextEdge⟩ := h.detach_spec x
  have hholders : ∀ y, y ∈ g.entities ∧ y ≠ x ↔ y ∈ (g.detach x).entities := by
    intro y
    rw [hentities, Ordered.mem_erase]
  have hkept : ∀ {i : EdgeId} {e : Edge}, (g.detach x).edges[i]? = some e →
      g.edges[i]? = some e ∧ e.source ≠ x ∧ e.target ≠ x := by
    intro i e he
    rw [hedges, Option.filter_eq_some_iff] at he
    simpa using he
  refine {
    entity_id := ?_
    source_live := fun he => (hholders _).mp ⟨h.source_live (hkept he).1, (hkept he).2.1⟩
    target_live := fun he => (hholders _).mp ⟨h.target_live (hkept he).1, (hkept he).2.2⟩
    indexed := ⟨hindexed.edge_id, hindexed.outgoing.congr_holders hholders,
      hindexed.incoming.congr_holders hholders, hindexed.composer⟩
    acyclic := h.acyclic.mono fun _ _ hc => hc.of_edges fun he => (hkept he).1
    entity_lt := fun hy => hnextEntity ▸ h.entity_lt ((hholders _).mpr hy).1
    edge_lt := ?_ }
  · intro y entity hy
    rw [hentities, Ordered.getElem?_erase] at hy
    split_ifs at hy
    exact h.entity_id hy
  · intro i hi
    obtain ⟨e, he⟩ := (Ordered.mem_iff_exists _ _).mp hi
    exact hnextEdge ▸ h.edge_lt (Ordered.mem_of_getElem? (hkept he).1)

/-- Detaching entities one after the other takes them and the edges that touch one of them, and
nothing else. -/
theorem WellFormed.foldl_detach (order : List EntityId) :
    ∀ {g : EntityGraph}, g.WellFormed →
      (order.foldl EntityGraph.detach g).WellFormed ∧
        (∀ y : EntityId, (order.foldl EntityGraph.detach g).entities[y]? =
          if y ∈ order then none else g.entities[y]?) ∧
        (∀ i : EdgeId, (order.foldl EntityGraph.detach g).edges[i]? =
          g.edges[i]?.filter fun e => e.source ∉ order ∧ e.target ∉ order) ∧
        (order.foldl EntityGraph.detach g).registry = g.registry ∧
        (order.foldl EntityGraph.detach g).nextEntity = g.nextEntity ∧
        (order.foldl EntityGraph.detach g).nextEdge = g.nextEdge := by
  induction order with
  | nil =>
    intro g h
    refine ⟨h, by simp, fun i => ?_, rfl, rfl, rfl⟩
    cases he : g.edges[i]? with
    | none => simp [he]
    | some e => simp [he, Option.filter_some]
  | cons x order ih =>
    intro g h
    -- The first is detached from the given graph, the others from what is left of it.
    obtain ⟨-, hentities, hedges, hregistry, hnextEntity, hnextEdge⟩ := h.detach_spec x
    obtain ⟨hwf', hentities', hedges', hregistry', hnextEntity', hnextEdge'⟩ := ih (h.detach x)
    refine ⟨hwf', fun y => ?_, fun i => ?_, hregistry'.trans hregistry,
      hnextEntity'.trans hnextEntity, hnextEdge'.trans hnextEdge⟩
    · rw [List.foldl_cons, hentities', hentities, Ordered.getElem?_erase]
      by_cases hy : y = x
      · simp [hy]
      · simp [hy]
    · rw [List.foldl_cons, hedges', hedges, Option.filter_filter]
      congr 1
      funext e
      simp only [List.mem_cons, not_or, ← Bool.decide_and, decide_eq_decide]
      tauto

/-! ## Requests and histories -/

/-- A refused request leaves the graph as it was. -/
theorem attempt_of_error {g : EntityGraph} {r : Request} {e : GraphError}
    (hr : g.apply r = .error e) : g.attempt r = (.error e, g) := by
  unfold attempt
  rw [hr]

/-- A request that is refused leaves the graph as it was. -/
theorem snd_attempt_of_error {g : EntityGraph} {r : Request} {e : GraphError}
    (hr : (g.attempt r).1 = .error e) : (g.attempt r).2 = g := by
  unfold attempt at hr ⊢
  split
  · rfl
  · rename_i ha
    simp [ha] at hr

/-- What a granted deletion returns and leaves behind. -/
theorem delete_eq_ok_iff {g : EntityGraph} {x : EntityId} {result : List EntityId × EntityGraph} :
    g.delete x = .ok result ↔
      x ∈ g.entities ∧ result = (g.partsFirst x, (g.partsFirst x).foldl EntityGraph.detach g) := by
  unfold delete
  by_cases hx : x ∈ g.entities
  · rw [requireLive_of_mem hx, Outcome.ok_bind]
    simp [hx, pure, Except.pure, eq_comm]
  · rw [requireLive_of_notMem hx, Outcome.error_bind]
    simp [hx]

/-- A granted deletion leaves a well-formed graph well-formed. -/
theorem WellFormed.delete {g g' : EntityGraph} (h : g.WellFormed) {x : EntityId}
    {order : List EntityId} (hd : g.delete x = .ok (order, g')) : g'.WellFormed := by
  obtain ⟨-, hresult⟩ := delete_eq_ok_iff.mp hd
  obtain ⟨-, rfl⟩ := Prod.mk.inj hresult
  exact (WellFormed.foldl_detach _ h).1

/-- A granted request leaves a well-formed graph well-formed. -/
theorem WellFormed.apply {g g' : EntityGraph} (h : g.WellFormed) {r : Request} {answer : Answer}
    (ha : g.apply r = .ok (answer, g')) : g'.WellFormed := by
  cases r with
  | create tag roles =>
    obtain ⟨⟨x, g''⟩, hc, heq⟩ := Outcome.map_eq_ok_iff.mp ha
    obtain ⟨-, rfl⟩ := Prod.mk.inj heq
    exact h.create hc
  | link l =>
    obtain ⟨⟨i, g''⟩, hl, heq⟩ := Outcome.map_eq_ok_iff.mp ha
    obtain ⟨-, rfl⟩ := Prod.mk.inj heq
    exact h.link hl
  | unlink i =>
    obtain ⟨⟨e, g''⟩, hu, heq⟩ := Outcome.map_eq_ok_iff.mp ha
    obtain ⟨-, rfl⟩ := Prod.mk.inj heq
    exact h.unlink hu
  | delete x =>
    obtain ⟨⟨order, g''⟩, hd, heq⟩ := Outcome.map_eq_ok_iff.mp ha
    obtain ⟨-, rfl⟩ := Prod.mk.inj heq
    exact h.delete hd

/-- A request, granted or refused, leaves a well-formed graph well-formed. -/
theorem WellFormed.attempt {g : EntityGraph} (h : g.WellFormed) (r : Request) :
    (g.attempt r).2.WellFormed := by
  unfold EntityGraph.attempt
  split
  · exact h
  · rename_i ha
    exact h.apply ha

/-- Every history of requests leaves a well-formed graph well-formed. -/
theorem WellFormed.run {g : EntityGraph} (h : g.WellFormed) (history : List Request) :
    (g.run history).WellFormed := by
  induction history generalizing g with
  | nil => exact h
  | cons r history ih => exact ih (h.attempt r)

/-- Every graph that a history of requests leads to is well-formed. -/
theorem wellFormed_run_empty (registry : Registry) (history : List Request) :
    ((EntityGraph.empty registry).run history).WellFormed :=
  (wellFormed_empty registry).run history

end ClassGraph.EntityGraph
