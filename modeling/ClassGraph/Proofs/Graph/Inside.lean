import ClassGraph.Proofs.Graph.Admission

/-!
# A graph inside another

A graph is inside another when its edges are those of the other that lead to some inner entities,
and no edge of the other leaves an outer one (`IsInside`). Outer entities are then parts at most:
no chain of compositions between inner entities runs through one, so that the rules for a new edge
between inner entities are the same in both graphs (`IsInside.checkKind_eq`). An edge to an outer
entity, which only the other graph is asked for, can break one rule, that of a single owner
(`IsInside.exists_owner_of_error`).
-/

open Relation

namespace ClassGraph.EntityGraph

/-! ## Links of a graph -/

/-- What the edges say, in their order. -/
def allLinks (g : EntityGraph) : List Link := g.allEdges.map (·.toLink)

/-- All links are those of the edges. -/
theorem mem_allLinks {g : EntityGraph} {l : Link} :
    l ∈ g.allLinks ↔ ∃ (i : EdgeId) (e : Edge), g.edges[i]? = some e ∧ e.toLink = l := by
  simp only [allLinks, List.mem_map, mem_allEdges]
  constructor
  · rintro ⟨e, ⟨i, he⟩, rfl⟩
    exact ⟨i, e, he, rfl⟩
  · rintro ⟨i, e, he, rfl⟩
    exact ⟨e, ⟨i, he⟩, rfl⟩

/-- An entity composes another when one of all links says so. -/
theorem composes_iff_mem_allLinks {g : EntityGraph} {owner part : EntityId} :
    g.Composes owner part ↔
      ∃ l ∈ g.allLinks, l.kind = .composition ∧ l.source = owner ∧ l.target = part := by
  simp only [mem_allLinks]
  constructor
  · rintro ⟨i, e, he, hrest⟩
    exact ⟨e.toLink, ⟨i, e, he, rfl⟩, hrest⟩
  · rintro ⟨_, ⟨i, e, he, rfl⟩, hrest⟩
    exact ⟨i, e, he, hrest⟩

/-- An association clashes with an edge when it clashes with one of all links. -/
theorem clash_iff_mem_allLinks {g : EntityGraph} {l : Link} (hkind : l.kind = .association) :
    g.Clash l ↔ ∃ l' ∈ g.allLinks, l'.Clashes l := by
  simp only [mem_allLinks]
  constructor
  · rintro ⟨i, e, he, hkind', hsource, hlabel, hone⟩
    exact ⟨e.toLink, ⟨i, e, he, rfl⟩, hkind', hkind, hsource, hlabel, hone⟩
  · rintro ⟨_, ⟨i, e, he, rfl⟩, hkind', -, hsource, hlabel, hone⟩
    exact ⟨i, e, he, hkind', hsource, hlabel, hone⟩

/-- A new edge adds its link behind the others. -/
theorem WellFormed.allLinks_insertEdge {g : EntityGraph} (h : g.WellFormed) (l : Link) :
    (g.insertEdge l).2.allLinks = g.allLinks ++ [l] := by
  rw [allLinks, h.allEdges_insertEdge, List.map_append]
  rfl

/-! ## Checks in two graphs -/

section

variable {g g' : EntityGraph} {l : Link}

/-- A rule that a link breaks is broken in every graph that looks the same to the link. -/
theorem BreaksRule.congr (howner : ∀ owner, g.Composes owner l.target ↔ g'.Composes owner l.target)
    (hchain : ReflTransGen g.Composes l.target l.source ↔
      ReflTransGen g'.Composes l.target l.source)
    (hclash : l.kind = .association → (g.Clash l ↔ g'.Clash l)) {error : GraphError}
    (h : g.BreaksRule l error) : g'.BreaksRule l error := by
  cases h with
  | ownershipConflict hkind hc => exact .ownershipConflict hkind ((howner _).mp hc)
  | cycle hkind hfree hc =>
    exact .cycle hkind (fun owner => mt (howner owner).mpr (hfree owner)) (hchain.mp hc)
  | cardinality hkind hc => exact .cardinality hkind ((hclash hkind).mp hc)

/-- The check of a link says the same in every graph that looks the same to the link. -/
theorem checkKind_congr (hg : g.WellFormed) (hg' : g'.WellFormed)
    (howner : ∀ owner, g.Composes owner l.target ↔ g'.Composes owner l.target)
    (hchain : ReflTransGen g.Composes l.target l.source ↔
      ReflTransGen g'.Composes l.target l.source)
    (hclash : l.kind = .association → (g.Clash l ↔ g'.Clash l)) :
    g.checkKind l = g'.checkKind l := by
  have herror : ∀ error, g.checkKind l = .error error ↔ g'.checkKind l = .error error := by
    intro error
    rw [hg.checkKind_eq_error_iff, hg'.checkKind_eq_error_iff]
    exact ⟨.congr howner hchain hclash, .congr (fun owner => (howner owner).symm) hchain.symm
      fun hkind => (hclash hkind).symm⟩
  cases hcheck' : g'.checkKind l with
  | error error => exact (herror error).mpr hcheck'
  | ok =>
    cases hcheck : g.checkKind l with
    | ok => rfl
    | error error =>
      rw [(herror error).mp hcheck] at hcheck'
      cases hcheck'

end

/-! ## Inner entities -/

/-- The edges of a graph are those of another that lead to inner entities, and all edges of the
other leave inner entities. -/
structure IsInside (inner : EntityId → Bool) (g g' : EntityGraph) : Prop where
  /-- The edges are those that lead to inner entities. -/
  links : g.allLinks = g'.allLinks.filter fun l => inner l.target
  /-- Every edge leaves an inner entity. -/
  source : ∀ l ∈ g'.allLinks, inner l.source = true

namespace IsInside

variable {inner : EntityId → Bool} {g g' : EntityGraph} {l : Link}

/-- Inner parts have the same owners in both graphs. -/
theorem composes_iff (h : IsInside inner g g') {owner part : EntityId}
    (hpart : inner part = true) : g.Composes owner part ↔ g'.Composes owner part := by
  simp only [composes_iff_mem_allLinks, h.links, List.mem_filter]
  constructor
  · rintro ⟨l, ⟨hl, -⟩, hrest⟩
    exact ⟨l, hl, hrest⟩
  · rintro ⟨l, hl, hkind, hsource, rfl⟩
    exact ⟨l, ⟨hl, hpart⟩, hkind, hsource, rfl⟩

/-- An owner is an inner entity. -/
theorem inner_of_composes (h : IsInside inner g g') {owner part : EntityId}
    (hc : g'.Composes owner part) : inner owner = true := by
  obtain ⟨l, hl, -, rfl, -⟩ := composes_iff_mem_allLinks.mp hc
  exact h.source l hl

/-- The chains of compositions to an inner entity are the same in both graphs. -/
theorem chain_iff (h : IsInside inner g g') {x y : EntityId} (hy : inner y = true) :
    ReflTransGen g.Composes x y ↔ ReflTransGen g'.Composes x y := by
  constructor
  · intro hchain
    refine ReflTransGen.mono (fun owner part hc => ?_) _ _ hchain
    obtain ⟨l, hl, hrest⟩ := composes_iff_mem_allLinks.mp hc
    rw [h.links, List.mem_filter] at hl
    exact composes_iff_mem_allLinks.mpr ⟨l, hl.1, hrest⟩
  · intro hchain
    -- From the end: each part on the way is the last, which is inner, or owns the next.
    induction hchain using ReflTransGen.head_induction_on with
    | refl => exact .refl
    | @head owner part hc hrest ih =>
      have hpart : inner part = true := by
        rcases hrest.cases_head with rfl | ⟨next, hnext, -⟩
        · exact hy
        · exact h.inner_of_composes hnext
      exact .head ((h.composes_iff hpart).mpr hc) ih

/-- The rules for an edge between inner entities are the same in both graphs, when no association
clashes with it. -/
theorem checkKind_eq (h : IsInside inner g g') (hg : g.WellFormed) (hg' : g'.WellFormed)
    (hsource : inner l.source = true) (htarget : inner l.target = true)
    (hclash : l.kind = .association → ¬ g'.Clash l) : g.checkKind l = g'.checkKind l := by
  refine checkKind_congr hg hg' (fun owner => h.composes_iff htarget) (h.chain_iff hsource)
    fun hkind => iff_of_false (fun hc => hclash hkind ?_) (hclash hkind)
  -- What clashes in the graph inside clashes in the other.
  rw [clash_iff_mem_allLinks hkind] at hc ⊢
  obtain ⟨l', hl', hrest⟩ := hc
  rw [h.links, List.mem_filter] at hl'
  exact ⟨l', hl'.1, hrest⟩

/-- An edge from an inner entity to an outer one is refused only when the outer one has an owner, if
no association clashes with it. -/
theorem exists_owner_of_error (h : IsInside inner g g') (hg' : g'.WellFormed)
    (hsource : inner l.source = true) (htarget : inner l.target = false)
    (hclash : l.kind = .association → ¬ g'.Clash l) {error : GraphError}
    (hcheck : g'.checkKind l = .error error) :
    ∃ owner, error = .ownershipConflict l.target owner := by
  cases hg'.checkKind_eq_error_iff.mp hcheck with
  | ownershipConflict => exact ⟨_, rfl⟩
  | cardinality hkind hc => exact absurd hc (hclash hkind)
  | cycle _ _ hchain =>
    -- No chain of compositions leaves an outer entity.
    rcases hchain.cases_head with heq | ⟨_, hc, -⟩
    · rw [heq, hsource] at htarget
      cases htarget
    · rw [h.inner_of_composes hc] at htarget
      cases htarget

/-- The edges between inner entities say the same in both graphs, in the same order. -/
theorem map_filter_allEdges (h : IsInside inner g g') :
    ((g'.allEdges.filter fun e => inner e.source && inner e.target).map (·.toLink)) =
      g.allEdges.map (·.toLink) := by
  have hsource : ∀ e ∈ g'.allEdges, (inner e.source && inner e.target) = inner e.target := by
    intro e he
    have hinner := h.source e.toLink (List.mem_map_of_mem he)
    rw [hinner, Bool.true_and]
  have hlinks : g.allEdges.map (·.toLink) =
      (g'.allEdges.map (·.toLink)).filter fun l => inner l.target := h.links
  rw [List.filter_congr hsource, hlinks, List.filter_map]
  rfl

/-- An edge between inner entities is new in both graphs. -/
theorem insertEdge (h : IsInside inner g g') (hg : g.WellFormed) (hg' : g'.WellFormed)
    (hsource : inner l.source = true) (htarget : inner l.target = true) :
    IsInside inner (g.insertEdge l).2 (g'.insertEdge l).2 where
  links := by
    rw [hg.allLinks_insertEdge, hg'.allLinks_insertEdge, List.filter_append, ← h.links,
      List.filter_singleton, htarget, cond_true]
  source := by
    rw [hg'.allLinks_insertEdge, List.forall_mem_append, List.forall_mem_singleton]
    exact ⟨h.source, hsource⟩

/-- An edge to an outer entity is new in the other graph only. -/
theorem insertEdge_outer (h : IsInside inner g g') (hg' : g'.WellFormed)
    (hsource : inner l.source = true) (htarget : inner l.target = false) :
    IsInside inner g (g'.insertEdge l).2 where
  links := by
    rw [hg'.allLinks_insertEdge, List.filter_append, ← h.links, List.filter_singleton, htarget,
      cond_false, List.append_nil]
  source := by
    rw [hg'.allLinks_insertEdge, List.forall_mem_append, List.forall_mem_singleton]
    exact ⟨h.source, hsource⟩

end IsInside

end ClassGraph.EntityGraph
