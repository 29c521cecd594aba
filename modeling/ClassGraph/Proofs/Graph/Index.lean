import ClassGraph.Graph.Mutation
import ClassGraph.Proofs.Acyclic
import ClassGraph.Proofs.Ordered

/-!
# The indexes of an entity graph

A graph keeps each edge in up to three indexes beside it. `Indexed` says that they agree with the
edges: under each entity of a given set stand exactly the edges that leave it, those that arrive at
it, and the composition of it. The set is a parameter because a deletion takes an entity out of the
indexes before it takes out its edges. Each single change of a graph is shown to keep the
agreement; which changes a request makes is not looked at here.
-/

namespace ClassGraph.EntityGraph

/-- Some edge makes `part` a part of `owner`. -/
def Composes (g : EntityGraph) (owner part : EntityId) : Prop :=
  ∃ (i : EdgeId) (e : Edge),
    g.edges[i]? = some e ∧ e.kind = .composition ∧ e.source = owner ∧ e.target = part

/-- An index has the holders as its keys, and under each of them the edges with this endpoint. -/
structure IndexOf (index : Std.ExtTreeMap EntityId EdgeSet) (holders : EntityId → Prop)
    (edges : Std.ExtTreeMap EdgeId Edge) (endpoint : Edge → EntityId) : Prop where
  /-- The keys are the holders. -/
  mem_index : ∀ x, x ∈ index ↔ holders x
  /-- Under a key stand the edges with this endpoint and no others. -/
  mem_ids : ∀ {x : EntityId} {ids : EdgeSet}, index[x]? = some ids →
    ∀ i, i ∈ ids ↔ ∃ e, edges[i]? = some e ∧ endpoint e = x

/-- The index of compositions names for each part the edge that composes it, and nothing else. -/
def ComposerIndex (composer : Std.ExtTreeMap EntityId EdgeId)
    (edges : Std.ExtTreeMap EdgeId Edge) : Prop :=
  ∀ (part : EntityId) (i : EdgeId), composer[part]? = some i ↔
    ∃ e : Edge, edges[i]? = some e ∧ e.kind = .composition ∧ e.target = part

/-- The three indexes of a graph agree with its edges. -/
structure Indexed (g : EntityGraph) (holders : EntityId → Prop) : Prop where
  /-- Every edge is stored under its own number. -/
  edge_id : ∀ {i : EdgeId} {e : Edge}, g.edges[i]? = some e → e.id = i
  /-- The index by sources. -/
  outgoing : IndexOf g.outgoing holders g.edges (·.source)
  /-- The index by targets. -/
  incoming : IndexOf g.incoming holders g.edges (·.target)
  /-- The index of compositions. -/
  composer : ComposerIndex g.composer g.edges

/-! ## One index -/

/-- An index with one more edge under an entity has it there, and elsewhere what it had. -/
theorem getElem?_addToIndex (index : Std.ExtTreeMap EntityId EdgeSet) (holder x : EntityId)
    (i : EdgeId) :
    (addToIndex index holder i)[x]? =
      if x = holder then some ((index[holder]?.getD ∅ : EdgeSet).insert i) else index[x]? :=
  Ordered.getElem?_insert ..

/-- An index without an edge under an entity lacks it there, and has elsewhere what it had. -/
theorem getElem?_removeFromIndex (index : Std.ExtTreeMap EntityId EdgeSet) (holder x : EntityId)
    (i : EdgeId) :
    (removeFromIndex index holder i)[x]? =
      if x = holder then index[holder]?.map fun ids : EdgeSet => ids.erase i else index[x]? := by
  unfold removeFromIndex
  cases h : index[holder]? with
  | none =>
    split_ifs with hx
    · rw [hx, h, Option.map_none]
    · rfl
  | some ids => exact Ordered.getElem?_insert ..

section Index

variable {index : Std.ExtTreeMap EntityId EdgeSet} {holders : EntityId → Prop}
  {edges : Std.ExtTreeMap EdgeId Edge} {endpoint : Edge → EntityId}

/-- A new edge is entered under its endpoint. -/
theorem IndexOf.insertEdge (h : IndexOf index holders edges endpoint) {e : Edge}
    (he : holders (endpoint e)) (hnew : edges[e.id]? = none) :
    IndexOf (addToIndex index (endpoint e) e.id) holders (edges.insert e.id e) endpoint := by
  obtain ⟨ids, hids⟩ := (Ordered.mem_iff_exists _ _).mp ((h.mem_index _).mpr he)
  constructor
  · intro x
    unfold addToIndex
    rw [Ordered.mem_insert, h.mem_index]
    exact ⟨fun hx => hx.elim (fun hx => hx ▸ he) id, .inr⟩
  · intro x ids' hx i
    rw [getElem?_addToIndex, hids, Option.getD_some] at hx
    rw [Ordered.getElem?_insert]
    -- Only under its endpoint does the new number come to those that stood there.
    by_cases hxe : x = endpoint e
    · rw [if_pos hxe] at hx
      obtain rfl := Option.some.inj hx
      rw [Ordered.mem_set_insert, h.mem_ids hids]
      by_cases hi : i = e.id
      · simp [hi, hxe]
      · simp [hi, hxe]
    · rw [if_neg hxe] at hx
      rw [h.mem_ids hx]
      by_cases hi : i = e.id
      · simp [hi, hnew, Ne.symm hxe]
      · simp [hi]

/-- An edge that goes is struck from under its endpoint. -/
theorem IndexOf.eraseEdge (h : IndexOf index holders edges endpoint) {e : Edge}
    (he : edges[e.id]? = some e) :
    IndexOf (removeFromIndex index (endpoint e) e.id) holders (edges.erase e.id) endpoint := by
  constructor
  · intro x
    rw [← h.mem_index, Ordered.mem_iff_exists, Ordered.mem_iff_exists, getElem?_removeFromIndex]
    split_ifs with hx
    · simp [hx]
    · rfl
  · intro x ids' hx i
    rw [getElem?_removeFromIndex] at hx
    rw [Ordered.getElem?_erase]
    -- The number stood under its endpoint only, so that no other set has to change.
    by_cases hxe : x = endpoint e
    · rw [if_pos hxe] at hx
      obtain ⟨ids, hids, rfl⟩ := Option.map_eq_some_iff.mp hx
      rw [Ordered.mem_set_erase, h.mem_ids hids, hxe]
      by_cases hi : i = e.id
      · simp [hi]
      · simp [hi]
    · rw [if_neg hxe] at hx
      rw [h.mem_ids hx]
      by_cases hi : i = e.id
      · simp [hi, he, Ne.symm hxe]
      · simp [hi]

/-- A new holder has no edges. -/
theorem IndexOf.insertHolder (h : IndexOf index holders edges endpoint) {x : EntityId}
    (hx : ∀ {i : EdgeId} {e : Edge}, edges[i]? = some e → endpoint e ≠ x) :
    IndexOf (index.insert x ∅) (fun y => y = x ∨ holders y) edges endpoint := by
  constructor
  · intro y
    rw [Ordered.mem_insert, h.mem_index]
  · intro y ids hy i
    rw [Ordered.getElem?_insert] at hy
    split_ifs at hy with hyx
    · obtain rfl := Option.some.inj hy
      refine iff_of_false Std.ExtTreeSet.not_mem_empty ?_
      rintro ⟨e, he, rfl⟩
      exact hx he hyx
    · exact h.mem_ids hy i

/-- A holder can be taken out with all that stands under it. -/
theorem IndexOf.eraseHolder (h : IndexOf index holders edges endpoint) (x : EntityId) :
    IndexOf (index.erase x) (fun y => holders y ∧ y ≠ x) edges endpoint := by
  constructor
  · intro y
    rw [Ordered.mem_erase, h.mem_index]
  · intro y ids hy i
    rw [Ordered.getElem?_erase] at hy
    split_ifs at hy with hyx
    exact h.mem_ids hy i

/-- The holders of an index may be described in other words. -/
theorem IndexOf.congr_holders (h : IndexOf index holders edges endpoint)
    {holders' : EntityId → Prop} (hh : ∀ x, holders x ↔ holders' x) :
    IndexOf index holders' edges endpoint :=
  ⟨fun x => (h.mem_index x).trans (hh x), h.mem_ids⟩

/-- The holders and the edges leave no choice in an index. -/
theorem IndexOf.unique (h : IndexOf index holders edges endpoint)
    {index' : Std.ExtTreeMap EntityId EdgeSet} (h' : IndexOf index' holders edges endpoint) :
    index = index' := by
  refine Std.ExtTreeMap.ext_getElem? fun x => ?_
  by_cases hx : holders x
  · obtain ⟨ids, hids⟩ := (Ordered.mem_iff_exists _ _).mp ((h.mem_index x).mpr hx)
    obtain ⟨ids', hids'⟩ := (Ordered.mem_iff_exists _ _).mp ((h'.mem_index x).mpr hx)
    have hsame : ids = ids' :=
      Std.ExtTreeSet.ext_mem fun i => (h.mem_ids hids i).trans (h'.mem_ids hids' i).symm
    rw [hids, hids', hsame]
  · have hnone : index[x]? = none :=
      (getElem?_eq_none_iff _ _).mpr (mt (h.mem_index x).mp hx)
    have hnone' : index'[x]? = none :=
      (getElem?_eq_none_iff _ _).mpr (mt (h'.mem_index x).mp hx)
    rw [hnone, hnone']

end Index

/-! ## The index of compositions -/

section Composer

variable {composer : Std.ExtTreeMap EntityId EdgeId} {edges : Std.ExtTreeMap EdgeId Edge}

/-- A new composition of an entity that nothing composes is entered, another edge is not. -/
theorem ComposerIndex.insertEdge (h : ComposerIndex composer edges) {e : Edge}
    (hnew : edges[e.id]? = none) (hfree : e.kind = .composition → composer[e.target]? = none) :
    ComposerIndex (if e.kind = .composition then composer.insert e.target e.id else composer)
      (edges.insert e.id e) := by
  intro part i
  have hlookup :
      (if e.kind = .composition then composer.insert e.target e.id else composer)[part]? =
        if e.kind = .composition ∧ part = e.target then some e.id else composer[part]? := by
    split_ifs <;> simp_all [Ordered.getElem?_insert]
  rw [hlookup, Ordered.getElem?_insert]
  by_cases hk : e.kind = .composition ∧ part = e.target
  · obtain ⟨hkind, rfl⟩ := hk
    -- The target had no entry, so that no other edge composes it.
    have hnone : ∀ j, composer[e.target]? ≠ some j := by simp [hfree hkind]
    have hother : ¬ ∃ e', edges[i]? = some e' ∧ e'.kind = .composition ∧ e'.target = e.target :=
      fun hex => hnone i ((h _ i).mpr hex)
    by_cases hi : i = e.id
    · simp [hi, hkind]
    · rw [if_pos ⟨hkind, rfl⟩, if_neg hi]
      exact iff_of_false (fun he => hi (Option.some.inj he).symm) hother
  · rw [if_neg hk, h]
    by_cases hi : i = e.id
    · simpa [hi, hnew, eq_comm] using hk
    · rw [if_neg hi]

/-- A composition that goes is struck out, another edge has no entry. -/
theorem ComposerIndex.eraseEdge (h : ComposerIndex composer edges) {e : Edge}
    (he : edges[e.id]? = some e) :
    ComposerIndex
      (if e.kind = .composition ∧ composer[e.target]? = some e.id then composer.erase e.target
        else composer) (edges.erase e.id) := by
  -- The second test never fails: the entry of the target is that of its one composition.
  have hentry : e.kind = .composition → composer[e.target]? = some e.id :=
    fun hkind => (h _ _).mpr ⟨e, he, hkind, rfl⟩
  intro part i
  have hlookup : (if e.kind = .composition ∧ composer[e.target]? = some e.id then
      composer.erase e.target else composer)[part]? =
      if e.kind = .composition ∧ part = e.target then none else composer[part]? := by
    split_ifs <;> simp_all [Ordered.getElem?_erase]
  rw [hlookup, Ordered.getElem?_erase]
  by_cases hk : e.kind = .composition ∧ part = e.target
  · obtain ⟨hkind, rfl⟩ := hk
    rw [if_pos ⟨hkind, rfl⟩]
    by_cases hi : i = e.id
    · simp [hi]
    · rw [if_neg hi]
      refine iff_of_false (by simp) fun hex => hi ?_
      exact Option.some.inj (((h _ i).mpr hex).symm.trans (hentry hkind))
  · rw [if_neg hk, h]
    by_cases hi : i = e.id
    · simpa [hi, he, eq_comm] using hk
    · rw [if_neg hi]

/-- The edges leave no choice in the index of compositions. -/
theorem ComposerIndex.unique (h : ComposerIndex composer edges)
    {composer' : Std.ExtTreeMap EntityId EdgeId} (h' : ComposerIndex composer' edges) :
    composer = composer' := by
  refine Std.ExtTreeMap.ext_getElem? fun part => Option.ext fun i => ?_
  have hview := h part i
  have hview' := h' part i
  exact hview.trans hview'.symm

end Composer

end ClassGraph.EntityGraph
