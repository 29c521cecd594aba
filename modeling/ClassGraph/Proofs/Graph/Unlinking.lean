import ClassGraph.Proofs.Graph.Alike
import ClassGraph.Proofs.Graph.Roots

/-!
# Links that are taken back

Links that are granted one after the other get numbers that were free, and leave everything else as
it was (`LinksEach`). Stored edges can be taken out in any order, each as it is stored, although the
rule of their kinds would not let them be stored in every order (`WellFormed.exists_unlinkEach`). So
when the numbers that were given are taken back, in whatever order, the graph is alike the one
before the links: only the number of the next edge has grown (`run_empty_unlinkEach`).
-/

namespace ClassGraph.EntityGraph

/-- Stores links one after the other, and returns their numbers. -/
def linkEach (g : EntityGraph) (links : List Link) :
    Except GraphError (List EdgeId × EntityGraph) :=
  Outcome.stepEach link g links

/-- Takes edges out one after the other, and returns them. -/
def unlinkEach (g : EntityGraph) (ids : List EdgeId) :
    Except GraphError (List Edge × EntityGraph) :=
  Outcome.stepEach unlink g ids

/-- The edges that links are under their numbers. -/
def numbered (links : List Link) (ids : List EdgeId) : List Edge :=
  (links.zip ids).map fun pair => { toLink := pair.1, id := pair.2 }

/-- The graph before some changes is restored behind them, `count` numbers of edges later. -/
structure Restores (g g' : EntityGraph) (count : Nat) : Prop where
  /-- The entities, the edges and the indexes are the same. -/
  alike : g.Alike g'
  /-- The number of the next entity is the same. -/
  nextEntity : g'.nextEntity = g.nextEntity
  /-- The number of the next edge has grown. -/
  nextEdge : g'.nextEdge = g.nextEdge + count
  /-- Links that are asked for one after the other are granted and refused as before. -/
  answers : ∀ later, g'.linkAnswers later = g.linkAnswers later

/-- What granted links return and leave behind. -/
structure LinksEach (g : EntityGraph) (links : List Link) (ids : List EdgeId) (g' : EntityGraph) :
    Prop where
  /-- The numbers follow one another from the one that was next. -/
  numbers : ids = (List.range' g.nextEdge links.length).map EdgeId.mk
  /-- The numbers are new. -/
  fresh : ∀ i ∈ ids, i ∉ g.edges
  /-- The links are stored under their numbers. -/
  stored : ∀ e ∈ numbered links ids, g'.edges[e.id]? = some e
  /-- The other edges stay as they are. -/
  kept : ∀ i ∉ ids, g'.edges[i]? = g.edges[i]?
  /-- The entities stay as they are. -/
  entities : g'.entities = g.entities
  /-- The types stay as they are. -/
  registry : g'.registry = g.registry
  /-- The number of the next entity stays as it is. -/
  nextEntity : g'.nextEntity = g.nextEntity
  /-- The number of the next edge has grown by that of the links. -/
  nextEdge : g'.nextEdge = g.nextEdge + links.length

/-- What the removal of edges returns and leaves behind. -/
structure UnlinksEach (g : EntityGraph) (ids : List EdgeId) (edges : List Edge) (g' : EntityGraph) :
    Prop where
  /-- The edges are returned in the order of their removal. -/
  numbers : edges.map (·.id) = ids
  /-- The edges were stored as they are returned. -/
  stored : ∀ e ∈ edges, g.edges[e.id]? = some e
  /-- The edges are those that there were, unchanged, without these. -/
  edges : ∀ i : EdgeId, g'.edges[i]? = if i ∈ ids then none else g.edges[i]?
  /-- The entities stay as they are. -/
  entities : g'.entities = g.entities
  /-- The types stay as they are. -/
  registry : g'.registry = g.registry
  /-- The number of the next entity stays as it is. -/
  nextEntity : g'.nextEntity = g.nextEntity
  /-- The number of the next edge stays as it is. -/
  nextEdge : g'.nextEdge = g.nextEdge

variable {g g₁ g₂ : EntityGraph} {l : Link} {links : List Link} {i : EdgeId} {ids : List EdgeId}

/-! ## Links that are stored -/

/-- Granted links leave a well-formed graph, and they do what `LinksEach` says. -/
theorem WellFormed.linksEach (links : List Link) :
    ∀ {g g' : EntityGraph} {ids : List EdgeId}, g.WellFormed → g.linkEach links = .ok (ids, g') →
      g'.WellFormed ∧ g.LinksEach links ids g' := by
  -- Induction on the links: the first one is stored under a number that the others cannot get.
  induction links with
  | nil =>
    intro g g' ids h hlinks
    obtain ⟨rfl, rfl⟩ := Prod.mk.inj (Except.ok.inj hlinks)
    exact ⟨h, {
      numbers := rfl
      fresh := fun _ hi => absurd hi List.not_mem_nil
      stored := fun _ he => absurd he List.not_mem_nil
      kept := fun _ _ => rfl
      entities := rfl
      registry := rfl
      nextEntity := rfl
      nextEdge := rfl }⟩
  | cons l links ih =>
    intro g g₂ ids h hlinks
    obtain ⟨i, g₁, ids, hl, hrest, rfl⟩ := Outcome.stepEach_cons_eq_ok_iff.mp hlinks
    have hfirst : g.Links l i g₁ := h.links_of_link hl
    obtain ⟨h₂, hothers⟩ := ih (h.link hl) hrest
    obtain ⟨hi, hnext⟩ := hfirst.nextEdge
    have hstored : g₁.edges[i]? = some { toLink := l, id := i } := by
      rw [hfirst.edges, if_pos rfl]
    have hnew : i ∉ ids := fun hmem =>
      hothers.fresh i hmem (Ordered.mem_of_getElem? hstored)
    have hbefore : ∀ j ≠ i, g₁.edges[j]? = g.edges[j]? := by
      intro j hj
      rw [hfirst.edges, if_neg hj]
    refine ⟨h₂, {
      numbers := ?_
      fresh := ?_
      stored := ?_
      kept := ?_
      entities := hothers.entities.trans hfirst.entities
      registry := hothers.registry.trans hfirst.registry
      nextEntity := hothers.nextEntity.trans hfirst.nextEntity
      nextEdge := ?_ }⟩
    · rw [hothers.numbers, hnext, List.length_cons, List.range'_succ, List.map_cons, hi]
    · refine List.forall_mem_cons.mpr ⟨hfirst.fresh, fun j hj hstored' => ?_⟩
      -- What was stored before is still stored behind the first link.
      have hne : j ≠ i := fun heq => hnew (heq ▸ hj)
      obtain ⟨e, he⟩ := (Ordered.mem_iff_exists _ _).mp hstored'
      exact hothers.fresh j hj (Ordered.mem_of_getElem? ((hbefore j hne).trans he))
    · refine List.forall_mem_cons.mpr ⟨?_, hothers.stored⟩
      exact (hothers.kept i hnew).trans hstored
    · intro j hj
      rw [List.mem_cons, not_or] at hj
      exact (hothers.kept j hj.2).trans (hbefore j hj.1)
    · rw [hothers.nextEdge, hnext, List.length_cons]
      omega

/-- The links are stored under the numbers that were returned, and under no others. -/
theorem LinksEach.map_id_numbered (h : g.LinksEach links ids g₁) :
    (numbered links ids).map (·.id) = ids := by
  have hlength : ids.length = links.length := by
    rw [h.numbers, List.length_map, List.length_range']
  unfold numbered
  rw [List.map_map]
  exact List.map_snd_zip hlength.le

/-- No number is given twice to granted links. -/
theorem LinksEach.nodup (h : g.LinksEach links ids g₁) : ids.Nodup := by
  rw [h.numbers]
  have hinjective : Function.Injective EdgeId.mk := fun _ _ heq => congrArg EdgeId.number heq
  exact (List.nodup_range' 1).map hinjective

/-! ## Edges that are taken out -/

/-- A stored edge can be taken out, and is returned. -/
theorem unlink_of_stored {e : Edge} (he : g.edges[i]? = some e) :
    g.unlink i = .ok (e, g.dropEdge e) := by
  rw [unlink, he]

/-- Different stored edges can be taken out in any order. -/
theorem WellFormed.exists_unlinkEach (ids : List EdgeId) :
    ∀ {g : EntityGraph}, g.WellFormed → ids.Nodup → (∀ i ∈ ids, i ∈ g.edges) →
      ∃ edges g', g.unlinkEach ids = .ok (edges, g') ∧ g'.WellFormed ∧
        g.UnlinksEach ids edges g' := by
  -- Induction on the numbers: behind the first removal, the edges of the others are still stored.
  induction ids with
  | nil =>
    intro g h _ _
    exact ⟨[], g, rfl, h, {
      numbers := rfl
      stored := fun _ he => absurd he List.not_mem_nil
      edges := fun _ => rfl
      entities := rfl
      registry := rfl
      nextEntity := rfl
      nextEdge := rfl }⟩
  | cons i ids ih =>
    intro g h hnodup hall
    obtain ⟨hi, hnodup'⟩ := List.nodup_cons.mp hnodup
    obtain ⟨hmem, hall'⟩ := List.forall_mem_cons.mp hall
    obtain ⟨e, he⟩ := (Ordered.mem_iff_exists _ _).mp hmem
    have hu : g.unlink i = .ok (e, g.dropEdge e) := unlink_of_stored he
    obtain ⟨rfl, hfirst⟩ := h.unlinks_of_unlink hu
    have hbefore : ∀ j ∈ ids, (g.dropEdge e).edges[j]? = g.edges[j]? := by
      intro j hj
      have hne : j ≠ e.id := fun heq => hi (heq ▸ hj)
      rw [hfirst.edges, if_neg hne]
    have hstill : ∀ j ∈ ids, j ∈ (g.dropEdge e).edges := by
      intro j hj
      obtain ⟨f, hf⟩ := (Ordered.mem_iff_exists _ _).mp (hall' j hj)
      exact Ordered.mem_of_getElem? ((hbefore j hj).trans hf)
    obtain ⟨edges, g', hrest, h', hothers⟩ := ih (h.unlink hu) hnodup' hstill
    have hboth : g.unlinkEach (e.id :: ids) = .ok (e :: edges, g') :=
      Outcome.stepEach_cons_eq_ok_iff.mpr ⟨e, _, edges, hu, hrest, rfl⟩
    refine ⟨e :: edges, g', hboth, h', {
      numbers := ?_
      stored := ?_
      edges := ?_
      entities := hothers.entities.trans hfirst.entities
      registry := hothers.registry.trans hfirst.registry
      nextEntity := hothers.nextEntity.trans hfirst.nextEntity
      nextEdge := hothers.nextEdge.trans hfirst.nextEdge }⟩
    · rw [List.map_cons, hothers.numbers]
    · refine List.forall_mem_cons.mpr ⟨he, fun f hf => ?_⟩
      have hfid : f.id ∈ ids := hothers.numbers ▸ List.mem_map_of_mem hf
      exact (hbefore f.id hfid).symm.trans (hothers.stored f hf)
    · intro j
      rw [hothers.edges, hfirst.edges]
      by_cases hj : j = e.id
      · simp [hj]
      · simp [hj]

/-- Stored edges with the same numbers in some order are the same edges in some order. -/
theorem perm_of_stored {edges edges' : List Edge} (h : ∀ e ∈ edges, g.edges[e.id]? = some e)
    (h' : ∀ e ∈ edges', g.edges[e.id]? = some e)
    (hperm : (edges.map (·.id)).Perm (edges'.map (·.id))) : edges.Perm edges' := by
  have hread : ∀ l : List Edge, (∀ e ∈ l, g.edges[e.id]? = some e) →
      (l.map (·.id)).filterMap (fun i => g.edges[i]?) = l := by
    intro l hl
    rw [List.filterMap_map]
    exact (List.filterMap_congr hl).trans List.filterMap_some
  have hsame := hperm.filterMap fun i => g.edges[i]?
  rwa [hread edges h, hread edges' h'] at hsame

/-! ## The main result -/

/-- A well-formed graph with the entities and edges that there were is restored. -/
theorem WellFormed.restores {count : Nat} (h : g.WellFormed) (h₂ : g₂.WellFormed)
    (hregistry : g₂.registry = g.registry) (hentities : g₂.entities = g.entities)
    (hedges : ∀ i : EdgeId, g₂.edges[i]? = g.edges[i]?) (hentity : g₂.nextEntity = g.nextEntity)
    (hedge : g₂.nextEdge = g.nextEdge + count) : g.Restores g₂ count := by
  have halike : g.Alike g₂ :=
    h.alike h₂ hregistry hentities (Std.ExtTreeMap.ext_getElem? @hedges)
  exact ⟨halike, hentity, hedge, halike.linkAnswers_eq h h₂⟩

/-- A link that is granted is undone when its number is taken back. -/
theorem WellFormed.unlink_of_link (h : g.WellFormed) (hl : g.link l = .ok (i, g₁)) :
    ∃ g₂, g₁.unlink i = .ok ({ toLink := l, id := i }, g₂) ∧ g.Restores g₂ 1 := by
  have hgiven : g.Links l i g₁ := h.links_of_link hl
  have hstored : g₁.edges[i]? = some { toLink := l, id := i } := by
    rw [hgiven.edges, if_pos rfl]
  have hu := unlink_of_stored hstored
  obtain ⟨-, htaken⟩ := (h.link hl).unlinks_of_unlink hu
  have hedges : ∀ j : EdgeId, (g₁.dropEdge { toLink := l, id := i }).edges[j]? = g.edges[j]? := by
    intro j
    rw [htaken.edges, hgiven.edges]
    -- The number was free before, and under the others nothing has changed.
    by_cases hj : j = i
    · have hfree : g.edges[j]? = none :=
        (getElem?_eq_none_iff _ _).mpr (hj ▸ hgiven.fresh)
      rw [if_pos hj, hfree]
    · rw [if_neg hj, if_neg hj]
  exact ⟨_, hu, h.restores ((h.link hl).unlink hu) (htaken.registry.trans hgiven.registry)
    (htaken.entities.trans hgiven.entities) hedges (htaken.nextEntity.trans hgiven.nextEntity)
    (htaken.nextEdge.trans hgiven.nextEdge.2)⟩

/-- Links that are granted are undone when their numbers are taken back in any order. -/
theorem WellFormed.unlinkEach_of_linkEach (h : g.WellFormed)
    (hlinks : g.linkEach links = .ok (ids, g₁)) {order : List EdgeId} (horder : order.Perm ids) :
    ∃ edges g₂, g₁.unlinkEach order = .ok (edges, g₂) ∧ edges.map (·.id) = order ∧
      edges.Perm (numbered links ids) ∧ g.Restores g₂ links.length := by
  obtain ⟨h₁, hgiven⟩ := h.linksEach links hlinks
  have hids : (numbered links ids).map (·.id) = ids := hgiven.map_id_numbered
  have hnodup : order.Nodup := horder.nodup_iff.mpr hgiven.nodup
  have hstored : ∀ i ∈ order, i ∈ g₁.edges := by
    intro i hi
    have hmem : i ∈ (numbered links ids).map (·.id) := by
      rw [hids]
      exact horder.mem_iff.mp hi
    obtain ⟨e, he, rfl⟩ := List.mem_map.mp hmem
    exact Ordered.mem_of_getElem? (hgiven.stored e he)
  obtain ⟨edges, g₂, hunlink, h₂, htaken⟩ := WellFormed.exists_unlinkEach order h₁ hnodup hstored
  have hedges : ∀ i : EdgeId, g₂.edges[i]? = g.edges[i]? := by
    intro i
    rw [htaken.edges]
    -- The numbers that were given were free before, and under the others nothing has changed.
    by_cases hi : i ∈ ids
    · have hfree : g.edges[i]? = none :=
        (getElem?_eq_none_iff _ _).mpr (hgiven.fresh i hi)
      rw [if_pos (horder.mem_iff.mpr hi), hfree]
    · rw [if_neg (fun hmem => hi (horder.mem_iff.mp hmem)), hgiven.kept i hi]
  have hsame : edges.Perm (numbered links ids) := by
    refine perm_of_stored htaken.stored hgiven.stored ?_
    rwa [htaken.numbers, hids]
  exact ⟨edges, g₂, hunlink, htaken.numbers, hsame,
    h.restores h₂ (htaken.registry.trans hgiven.registry)
      (htaken.entities.trans hgiven.entities) hedges (htaken.nextEntity.trans hgiven.nextEntity)
      (htaken.nextEdge.trans hgiven.nextEdge)⟩

/-- Behind every history of requests, the removal of an edge that was just stored returns the link
under its number and restores the graph. When several links are granted one after the other, their
numbers can be taken back in any order: each edge is returned as the link under its number, and the
graph is restored. -/
theorem run_empty_unlinkEach (registry : Registry) (history : List Request) :
    let g := (EntityGraph.empty registry).run history
    (∀ l i g₁, g.link l = .ok (i, g₁) →
      ∃ g₂, g₁.unlink i = .ok ({ toLink := l, id := i }, g₂) ∧ g.Restores g₂ 1) ∧
    ∀ links ids g₁, g.linkEach links = .ok (ids, g₁) → ∀ order, order.Perm ids →
      ∃ edges g₂, g₁.unlinkEach order = .ok (edges, g₂) ∧ edges.map (·.id) = order ∧
        edges.Perm (numbered links ids) ∧ g.Restores g₂ links.length := by
  intro g
  have h : g.WellFormed := wellFormed_run_empty registry history
  exact ⟨fun l i g₁ hl => h.unlink_of_link hl,
    fun links ids g₁ hlinks order horder => h.unlinkEach_of_linkEach hlinks horder⟩

/-- The sixth item becomes a part of the fourth. Then it refers to the fifth once more, the fifth to
itself, and the sixth to the fifth a third time. -/
def rearrangement : List Link :=
  [{ source := ⟨4⟩, target := ⟨6⟩, kind := .composition },
    { source := ⟨6⟩, target := ⟨5⟩, kind := .association },
    { source := ⟨5⟩, target := ⟨5⟩, kind := .association },
    { source := ⟨6⟩, target := ⟨5⟩, kind := .association }]

/-- The fourth item cannot become a part of the sixth while it owns it. When the four edges have
been taken back, in an order of their own, it can. -/
theorem unlinkEach_rearrangement :
    let turned : Link := { source := ⟨6⟩, target := ⟨4⟩, kind := .composition }
    ∃ g₁, furnished.linkEach rearrangement = .ok ([⟨5⟩, ⟨6⟩, ⟨7⟩, ⟨8⟩], g₁) ∧
      g₁.linkAnswers [turned] = [.error (.cycle ⟨6⟩ ⟨4⟩)] ∧
      ∃ edges g₂, g₁.unlinkEach [⟨7⟩, ⟨5⟩, ⟨8⟩, ⟨6⟩] = .ok (edges, g₂) ∧
        edges.Perm (numbered rearrangement [⟨5⟩, ⟨6⟩, ⟨7⟩, ⟨8⟩]) ∧ furnished.Alike g₂ ∧
        g₂.linkAnswers [turned] = [.ok ()] := by
  intro turned
  have hgranted : (furnished.linkEach rearrangement).map
      (fun result => (result.1, result.2.linkAnswers [turned])) =
        .ok ([⟨5⟩, ⟨6⟩, ⟨7⟩, ⟨8⟩], [.error (.cycle ⟨6⟩ ⟨4⟩)]) := by
    decide +kernel
  obtain ⟨⟨ids, g₁⟩, hlinks, hresult⟩ := Outcome.map_eq_ok_iff.mp hgranted
  obtain ⟨hids, hrefused⟩ := Prod.mk.inj hresult
  obtain rfl : ids = [⟨5⟩, ⟨6⟩, ⟨7⟩, ⟨8⟩] := hids
  obtain ⟨-, hany⟩ := run_empty_unlinkEach furniture _
  obtain ⟨edges, g₂, hunlink, -, hsame, hrestores⟩ :=
    hany rearrangement _ g₁ hlinks [⟨7⟩, ⟨5⟩, ⟨8⟩, ⟨6⟩] (by decide)
  refine ⟨g₁, hlinks, hrefused, edges, g₂, hunlink, hsame, hrestores.alike, ?_⟩
  rw [hrestores.answers]
  decide +kernel

end ClassGraph.EntityGraph
