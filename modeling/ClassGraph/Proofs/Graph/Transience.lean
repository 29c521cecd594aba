import ClassGraph.Proofs.Graph.Alike
import ClassGraph.Proofs.Graph.Roots

/-!
# Entities that leave no trace

A guest of a graph is an entity that came later and owns nothing: without it and the edges that
touch it, the graph is the one before it came (`Hosts`). A created entity is a guest, and it stays
one while links are asked for that touch it and give it no part, granted or refused (`Hosts.run`).
The deletion of a guest takes it alone, with the edges that touch it, which leaves the graph before
it (`Hosts.exists_delete`). So creating an entity, linking it and deleting it again changes the
counters at most: `run_empty_create_delete`.
-/

open Relation

namespace ClassGraph

/-- A link that touches an entity and does not ask for a part of it. -/
structure Link.Visits (l : Link) (x : EntityId) : Prop where
  /-- The link touches the entity. -/
  touches : l.source = x ∨ l.target = x
  /-- The entity is not to own anything. -/
  partless : ¬ (l.kind = .composition ∧ l.source = x)

namespace EntityGraph

/-- The graph `g'` is `g` with `x` as a guest. -/
structure Hosts (g : EntityGraph) (x : EntityId) (g' : EntityGraph) : Prop where
  /-- The guest is new. -/
  fresh : x ∉ g.entities
  /-- The guest is live. -/
  live : x ∈ g'.entities
  /-- The other entities are those that there were, unchanged. -/
  entities : ∀ y ≠ x, g'.entities[y]? = g.entities[y]?
  /-- The edges that do not touch the guest are those that there were, unchanged. -/
  edges : ∀ i : EdgeId, (g'.edges[i]?.filter fun e => e.source ≠ x ∧ e.target ≠ x) = g.edges[i]?
  /-- The guest owns nothing. -/
  partless : ∀ part, ¬ g'.Composes x part
  /-- The types are the same. -/
  registry : g'.registry = g.registry
  /-- One entity has been numbered. -/
  nextEntity : g'.nextEntity = g.nextEntity + 1
  /-- Edges may have been numbered. -/
  nextEdge_le : g.nextEdge ≤ g'.nextEdge

variable {g g' g'' : EntityGraph} {x : EntityId} {l : Link} {i : EdgeId}

/-! ## Guests -/

/-- A created entity is a guest. -/
theorem WellFormed.hosts_of_create (h : g.WellFormed) {tag : String} {roles : List String}
    (hcreate : g.create tag roles = .ok (x, g')) : g.Hosts x g' := by
  obtain ⟨all, -, hcreates⟩ := creates_of_create hcreate
  obtain ⟨hx, hnext⟩ := hcreates.nextEntity
  have hfresh : x ∉ g.entities := by
    have hnew := h.nextEntity_notMem
    rwa [← hx] at hnew
  -- No edge touches what was not live.
  have huntouched : ∀ (i : EdgeId) (e : Edge),
      g.edges[i]? = some e → e.source ≠ x ∧ e.target ≠ x := by
    intro i e he
    constructor
    · exact fun hs => hfresh (hs ▸ h.source_live he)
    · exact fun ht => hfresh (ht ▸ h.target_live he)
  exact {
    fresh := hfresh
    live := by
      have hstored := hcreates.entities x
      rw [if_pos rfl] at hstored
      exact Ordered.mem_of_getElem? hstored
    entities := fun y hy => by rw [hcreates.entities, if_neg hy]
    edges := by
      intro i
      rw [hcreates.edges]
      cases he : g.edges[i]? with
      | none => rfl
      | some e => exact Option.filter_eq_some_iff.mpr ⟨rfl, decide_eq_true (huntouched i e he)⟩
    partless := by
      rintro part ⟨i, e, he, -, hs, -⟩
      rw [hcreates.edges] at he
      exact (huntouched i e he).1 hs
    registry := hcreates.registry
    nextEntity := hnext
    nextEdge_le := hcreates.nextEdge.ge }

/-- A link that touches a guest and gives it no part, once it is granted, leaves it a guest. -/
theorem Hosts.link (hhosts : g.Hosts x g') (h' : g'.WellFormed) (hvisits : l.Visits x)
    (hl : g'.link l = .ok (i, g'')) : g.Hosts x g'' := by
  have hlinks : g'.Links l i g'' := h'.links_of_link hl
  have hfree : g'.edges[i]? = none := (getElem?_eq_none_iff _ _).mpr hlinks.fresh
  exact {
    fresh := hhosts.fresh
    live := by
      rw [hlinks.entities]
      exact hhosts.live
    entities := fun y hy => by rw [hlinks.entities, hhosts.entities y hy]
    edges := by
      intro j
      rw [hlinks.edges]
      by_cases hj : j = i
      · -- The new edge touches the guest, and its number was free before the guest came.
        have hbefore : g.edges[j]? = none := by
          rw [← hhosts.edges, hj, hfree]
          rfl
        have htouches : ¬ (l.source ≠ x ∧ l.target ≠ x) := fun hand =>
          hvisits.touches.elim hand.1 hand.2
        rw [if_pos hj, hbefore, Option.filter_eq_none_iff]
        rintro e ⟨⟩
        exact fun hand => htouches (of_decide_eq_true hand)
      · rw [if_neg hj, hhosts.edges]
    partless := by
      rintro part ⟨j, e, he, hkind, hs, ht⟩
      rw [hlinks.edges] at he
      split_ifs at he with hj
      · obtain rfl := Option.some.inj he
        exact hvisits.partless ⟨hkind, hs⟩
      · exact hhosts.partless part ⟨j, e, he, hkind, hs, ht⟩
    registry := hlinks.registry.trans hhosts.registry
    nextEntity := hlinks.nextEntity.trans hhosts.nextEntity
    nextEdge_le := by
      have hle := hhosts.nextEdge_le
      have hnext := hlinks.nextEdge.2
      omega }

/-- A guest stays one, whichever of such links are granted. -/
theorem Hosts.run (links : List Link) : ∀ {g' : EntityGraph}, g.Hosts x g' → g'.WellFormed →
    (∀ l ∈ links, l.Visits x) → g.Hosts x (g'.run (links.map .link)) := by
  induction links with
  | nil => exact fun hhosts _ _ => hhosts
  | cons l links ih =>
    intro g' hhosts h' hall
    obtain ⟨hfirst, hothers⟩ := List.forall_mem_cons.mp hall
    have hnext : g.Hosts x (g'.attempt (.link l)).2 := by
      cases hl : g'.link l with
      | error error => rwa [attempt_link_of_error hl]
      | ok result =>
        obtain ⟨i, g''⟩ := result
        rw [attempt_link_of_ok hl]
        exact hhosts.link h' hfirst hl
    exact ih hnext (h'.attempt _) hothers

/-- The deletion of a guest takes it alone, and leaves the graph before it. -/
theorem Hosts.exists_delete (hhosts : g.Hosts x g') (h : g.WellFormed) (h' : g'.WellFormed) :
    ∃ g'', g'.delete x = .ok ([x], g'') ∧ g.Alike g'' ∧ g''.nextEntity = g.nextEntity + 1 ∧
      g.nextEdge ≤ g''.nextEdge := by
  obtain ⟨order, g'', hdelete, hdeletes⟩ := h'.exists_delete hhosts.live
  have h'' : g''.WellFormed := h'.delete hdelete
  have horder : order = [x] := by
    refine List.perm_singleton.mp ((List.perm_ext_iff_of_nodup hdeletes.nodup
      (List.nodup_singleton x)).mpr fun y => ?_)
    rw [hdeletes.mem_iff, List.mem_singleton]
    constructor
    · intro hchain
      -- A chain that leads away from the guest would begin at a part of it.
      rcases hchain.cases_head with heq | ⟨part, hc, -⟩
      · exact heq.symm
      · exact absurd hc (hhosts.partless part)
    · rintro rfl
      exact .refl
  subst horder
  have hentities : g''.entities = g.entities := by
    refine Std.ExtTreeMap.ext_getElem? fun y => ?_
    rw [hdeletes.entities]
    by_cases hy : y = x
    · have hnone : g.entities[y]? = none :=
        (getElem?_eq_none_iff _ _).mpr (hy ▸ hhosts.fresh)
      rw [if_pos (List.mem_singleton.mpr hy), hnone]
    · rw [if_neg (mt List.mem_singleton.mp hy), hhosts.entities y hy]
  have hedges : g''.edges = g.edges := by
    refine Std.ExtTreeMap.ext_getElem? fun i => ?_
    rw [hdeletes.edges, ← hhosts.edges]
    simp only [List.mem_singleton, ne_eq]
  have halike : g.Alike g'' :=
    h.alike h'' (hdeletes.registry.trans hhosts.registry) hentities hedges
  have hnext : g.nextEdge ≤ g''.nextEdge := hdeletes.nextEdge ▸ hhosts.nextEdge_le
  exact ⟨g'', hdelete, halike, hdeletes.nextEntity.trans hhosts.nextEntity, hnext⟩

/-! ## The main result -/

/-- Behind every history of requests, let an entity be created and links be asked for, granted or
refused, each of which touches the entity and none of which makes it an owner. Then its deletion
returns it alone, and the graph is alike the one before the creation. -/
theorem run_empty_create_delete (registry : Registry) (history : List Request) {tag : String}
    {roles : List String} {x : EntityId} {g₁ : EntityGraph}
    (hcreate : ((EntityGraph.empty registry).run history).create tag roles = .ok (x, g₁))
    (links : List Link) (htouches : ∀ l ∈ links, l.source = x ∨ l.target = x)
    (hpartless : ∀ l ∈ links, ¬ (l.kind = .composition ∧ l.source = x)) :
    let g := (EntityGraph.empty registry).run history
    ∃ g₂, (g₁.run (links.map .link)).delete x = .ok ([x], g₂) ∧ g.Alike g₂ ∧
      g₂.nextEntity = g.nextEntity + 1 ∧ g.nextEdge ≤ g₂.nextEdge := by
  intro g
  have h : g.WellFormed := wellFormed_run_empty registry history
  have h₁ : g₁.WellFormed := h.create hcreate
  have hguest : g.Hosts x g₁ := h.hosts_of_create hcreate
  have hstays : g.Hosts x (g₁.run (links.map .link)) :=
    hguest.run links h₁ fun l hl => ⟨htouches l hl, hpartless l hl⟩
  exact hstays.exists_delete h (h₁.run _)

/-- The seventh item becomes a part of the fourth, refers to the fifth twice, under different
labels, and depends on itself, and the sixth refers to it. The second asks for it as well, and the
last link leads to an item that is not there. -/
def visit : List Link :=
  [{ source := ⟨4⟩, target := ⟨7⟩, kind := .composition },
    { source := ⟨7⟩, target := ⟨5⟩, kind := .association },
    { source := ⟨7⟩, target := ⟨5⟩, kind := .association, label := some "top" },
    { source := ⟨7⟩, target := ⟨7⟩, kind := .dependency },
    { source := ⟨6⟩, target := ⟨7⟩, kind := .association },
    { source := ⟨2⟩, target := ⟨7⟩, kind := .composition },
    { source := ⟨7⟩, target := ⟨8⟩, kind := .association }]

/-- A seventh item comes, is linked and goes again. Two of the links are refused. -/
theorem create_delete_visit :
    ∃ g₁, furnished.create "Item" [] = .ok (⟨7⟩, g₁) ∧
      (∀ l ∈ visit, l.source = ⟨7⟩ ∨ l.target = ⟨7⟩) ∧
      (∀ l ∈ visit, ¬ (l.kind = .composition ∧ l.source = ⟨7⟩)) ∧
      g₁.linkAnswers visit = [.ok (), .ok (), .ok (), .ok (), .ok (),
        .error (.ownershipConflict ⟨7⟩ ⟨4⟩), .error (.unknown (.entity ⟨8⟩))] ∧
      ∃ g₂, (g₁.run (visit.map .link)).delete ⟨7⟩ = .ok ([⟨7⟩], g₂) ∧ furnished.Alike g₂ := by
  have htouches : ∀ l ∈ visit, l.source = ⟨7⟩ ∨ l.target = ⟨7⟩ := by decide
  have hpartless : ∀ l ∈ visit, ¬ (l.kind = .composition ∧ l.source = ⟨7⟩) := by decide
  have hcreated : (furnished.create "Item" []).map
      (fun result => (result.1, result.2.linkAnswers visit)) =
        .ok (⟨7⟩, [.ok (), .ok (), .ok (), .ok (), .ok (),
          .error (.ownershipConflict ⟨7⟩ ⟨4⟩), .error (.unknown (.entity ⟨8⟩))]) := by
    decide +kernel
  obtain ⟨⟨x, g₁⟩, hcreate, hresult⟩ := Outcome.map_eq_ok_iff.mp hcreated
  obtain ⟨hx, hanswers⟩ := Prod.mk.inj hresult
  obtain rfl : x = ⟨7⟩ := hx
  obtain ⟨g₂, hdelete, halike, -⟩ :=
    run_empty_create_delete furniture _ hcreate visit htouches hpartless
  exact ⟨g₁, hcreate, htouches, hpartless, hanswers, g₂, hdelete, halike⟩

end EntityGraph

end ClassGraph
