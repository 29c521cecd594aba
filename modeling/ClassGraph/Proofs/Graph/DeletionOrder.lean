import ClassGraph.Proofs.Graph.Alike
import ClassGraph.Proofs.Graph.Roots

/-!
# Deletions in another order

Entities are deleted one after the other, and passed over where an earlier deletion has taken them
along. A deletion takes an entity with all that is below it, so that no chain of compositions to
what is left goes through what it has taken (`Deletes.chain_iff`). By induction on the list, the
deletions together take what is below one of its entities in the given graph, each once
(`WellFormed.deletesLive`), and that does not depend on the order: `run_empty_deleteLive`.
-/

open Relation

namespace ClassGraph.EntityGraph

/-- Deletes an entity if it is live, and otherwise changes nothing and returns none. -/
def deleteIfLive (g : EntityGraph) (x : EntityId) :
    Except GraphError (List EntityId × EntityGraph) :=
  if g.contains x then g.delete x else .ok ([], g)

/-- Deletes entities one after the other, each if it is still live, and returns what each deletion
has returned. -/
def deleteLive (g : EntityGraph) (xs : List EntityId) :
    Except GraphError (List (List EntityId) × EntityGraph) :=
  Outcome.stepEach deleteIfLive g xs

/-- What deletions of some entities return and leave behind. -/
structure DeletesLive (g : EntityGraph) (xs : List EntityId) (lists : List (List EntityId))
    (g' : EntityGraph) : Prop where
  /-- Nothing is returned twice. -/
  nodup : lists.flatten.Nodup
  /-- The live ones among the entities are returned with all their parts, direct or not. -/
  mem_iff : ∀ y, y ∈ lists.flatten ↔ ∃ x ∈ xs, x ∈ g.entities ∧ ReflTransGen g.Composes x y
  /-- The entities that are left are those that were not returned, unchanged. -/
  entities : ∀ y : EntityId, g'.entities[y]? = if y ∈ lists.flatten then none else g.entities[y]?
  /-- The edges that are left are those between entities that are left, unchanged. -/
  edges : ∀ i : EdgeId, g'.edges[i]? =
    g.edges[i]?.filter fun e => e.source ∉ lists.flatten ∧ e.target ∉ lists.flatten
  /-- The types stay as they are. -/
  registry : g'.registry = g.registry
  /-- The number of the next entity stays as it is. -/
  nextEntity : g'.nextEntity = g.nextEntity
  /-- The number of the next edge stays as it is. -/
  nextEdge : g'.nextEdge = g.nextEdge

variable {g g₁ g' : EntityGraph} {x y z : EntityId} {xs ys order : List EntityId}
  {lists : List (List EntityId)}

/-! ## One deletion after the other -/

/-- A live entity is deleted as it is asked. -/
theorem deleteIfLive_of_mem (hx : x ∈ g.entities) : g.deleteIfLive x = g.delete x := by
  unfold deleteIfLive
  rw [if_pos ((g.contains_iff x).mpr hx)]

/-- Nothing is deleted of an entity that is not live. -/
theorem deleteIfLive_of_notMem (hx : x ∉ g.entities) : g.deleteIfLive x = .ok ([], g) := by
  have hgone : ¬ g.contains x = true := fun hlive => hx ((g.contains_iff x).mp hlive)
  unfold deleteIfLive
  rw [if_neg hgone]

/-- A deletion takes all that is below what it takes. -/
theorem Deletes.mem_of_chain (hdeletes : g.Deletes x order g₁) (hz : z ∈ order)
    (hchain : ReflTransGen g.Composes z y) : y ∈ order :=
  (hdeletes.mem_iff y).mpr (((hdeletes.mem_iff z).mp hz).trans hchain)

/-- Chains of compositions to what a deletion has left are those that there were. -/
theorem Deletes.chain_iff (hdeletes : g.Deletes x order g₁) (hy : y ∉ order) :
    ReflTransGen g₁.Composes z y ↔ ReflTransGen g.Composes z y := by
  constructor
  · exact ReflTransGen.mono (fun _ _ hc => (hdeletes.composes_iff.mp hc).1) z y
  · intro hchain
    -- Nothing on the chain was taken, or its end would have been taken as well.
    induction hchain with
    | refl => exact .refl
    | @tail owner part _ hc ih =>
      have howner : owner ∉ order := fun hmem => hy (hdeletes.mem_of_chain hmem (.single hc))
      exact (ih howner).tail (hdeletes.composes_iff.mpr ⟨hc, howner, hy⟩)

/-- What a deletion has left is below the same live entities as before. -/
theorem Deletes.below_iff (hdeletes : g.Deletes x order g₁) (hy : y ∉ order) :
    z ∈ g₁.entities ∧ ReflTransGen g₁.Composes z y ↔
      z ∈ g.entities ∧ ReflTransGen g.Composes z y := by
  rw [hdeletes.chain_iff hy, hdeletes.mem_entities_iff, and_assoc]
  -- An entity above it was not taken either.
  exact and_congr_right fun _ =>
    and_iff_right_of_imp fun hchain hz => hy (hdeletes.mem_of_chain hz hchain)

/-- Deletions behind a first one take what is left of what they would have taken without it. -/
theorem DeletesLive.cons (h₁ : g₁.WellFormed) (hx : x ∈ g.entities)
    (hfirst : g.Deletes x order g₁) (hrest : g₁.DeletesLive xs lists g') :
    g.DeletesLive (x :: xs) (order :: lists) g' := by
  -- What the others take is live behind the first one.
  have hleft : ∀ y ∈ lists.flatten, y ∉ order := by
    intro y hy
    obtain ⟨z, -, hz, hchain⟩ := (hrest.mem_iff y).mp hy
    exact (hfirst.mem_entities_iff.mp (h₁.live_of_chain hz hchain)).2
  refine {
    nodup := ?_
    mem_iff := fun y => ?_
    entities := fun y => ?_
    edges := fun i => ?_
    registry := hrest.registry.trans hfirst.registry
    nextEntity := hrest.nextEntity.trans hfirst.nextEntity
    nextEdge := hrest.nextEdge.trans hfirst.nextEdge }
  · rw [List.flatten_cons]
    exact hfirst.nodup.append hrest.nodup fun y hy hy' => hleft y hy' hy
  · rw [List.flatten_cons, List.mem_append, List.exists_mem_cons_iff, and_iff_right hx,
      ← hfirst.mem_iff]
    by_cases hy : y ∈ order
    · simp [hy]
    · rw [hrest.mem_iff]
      simp only [hfirst.below_iff hy]
  · rw [hrest.entities, hfirst.entities, List.flatten_cons]
    by_cases hy : y ∈ order
    · simp [hy]
    · simp [hy]
  · rw [hrest.edges, hfirst.edges, Option.filter_filter]
    congr 1
    funext e
    rw [Bool.eq_iff_iff]
    simp only [List.flatten_cons, List.mem_append, Bool.and_eq_true, decide_eq_true_eq, not_or]
    exact and_and_and_comm

/-- Entities of a well-formed graph can be deleted one after the other, as far as they are live. -/
theorem WellFormed.deletesLive (xs : List EntityId) : ∀ {g : EntityGraph}, g.WellFormed →
    ∃ lists g', g.deleteLive xs = .ok (lists, g') ∧ g'.WellFormed ∧ g.DeletesLive xs lists g' := by
  -- Induction on the list: each entity is deleted or passed over.
  induction xs with
  | nil =>
    intro g h
    exact ⟨[], g, rfl, h, {
      nodup := List.nodup_nil
      mem_iff := fun y => by simp
      entities := fun _ => rfl
      edges := fun i => by cases g.edges[i]? <;> rfl
      registry := rfl
      nextEntity := rfl
      nextEdge := rfl }⟩
  | cons x xs ih =>
    intro g h
    by_cases hx : x ∈ g.entities
    · obtain ⟨order, g₁, hdelete, hfirst⟩ := h.exists_delete hx
      have h₁ : g₁.WellFormed := h.delete hdelete
      obtain ⟨lists, g', hothers, h', hrest⟩ := ih h₁
      have hboth : g.deleteLive (x :: xs) = .ok (order :: lists, g') :=
        Outcome.stepEach_cons_eq_ok_iff.mpr
          ⟨order, g₁, lists, (deleteIfLive_of_mem hx).trans hdelete, hothers, rfl⟩
      exact ⟨order :: lists, g', hboth, h', hrest.cons h₁ hx hfirst⟩
    · obtain ⟨lists, g', hothers, h', hrest⟩ := ih h
      have hboth : g.deleteLive (x :: xs) = .ok ([] :: lists, g') :=
        Outcome.stepEach_cons_eq_ok_iff.mpr
          ⟨[], g, lists, deleteIfLive_of_notMem hx, hothers, rfl⟩
      refine ⟨[] :: lists, g', hboth, h', { hrest with mem_iff := fun y => ?_ }⟩
      have hmem : y ∈ ([] :: lists).flatten ↔ y ∈ lists.flatten := Iff.rfl
      rw [hmem, hrest.mem_iff, List.exists_mem_cons_iff, or_iff_right fun hand => hx hand.1]

/-! ## The main result -/

/-- Deletions that take the same entities leave the same graph. -/
theorem WellFormed.eq_of_deletesLive (h₁ : g₁.WellFormed) (h' : g'.WellFormed)
    {lists₁ : List (List EntityId)} (hone : g.DeletesLive xs lists₁ g₁)
    (hother : g.DeletesLive ys lists g') (hsame : lists₁.flatten.Perm lists.flatten) : g₁ = g' := by
  have hentities : g₁.entities = g'.entities := by
    refine Std.ExtTreeMap.ext_getElem? fun y => ?_
    simp only [hone.entities, hother.entities, hsame.mem_iff]
  have hedges : g₁.edges = g'.edges := by
    refine Std.ExtTreeMap.ext_getElem? fun i => ?_
    simp only [hone.edges, hother.edges, hsame.mem_iff]
  have halike : g'.Alike g₁ :=
    h'.alike h₁ (hone.registry.trans hother.registry.symm) hentities hedges
  exact halike.eq (hone.nextEntity.trans hother.nextEntity.symm)
    (hone.nextEdge.trans hother.nextEdge.symm)

/-- Behind every history of requests, entities can be deleted one after the other, those passed over
that an earlier deletion has taken along. In every order of the entities the returned lists together
hold the same entities, each once: the live ones among the given, and all that is below them. The
graph behind the deletions is the same. -/
theorem run_empty_deleteLive (registry : Registry) (history : List Request)
    (xs ys : List EntityId) (horder : xs.Perm ys) :
    let g := (EntityGraph.empty registry).run history
    ∃ lists lists' g', g.deleteLive xs = .ok (lists, g') ∧ g.deleteLive ys = .ok (lists', g') ∧
      lists.flatten.Nodup ∧ lists.flatten.Perm lists'.flatten ∧
      ∀ y, y ∈ lists.flatten ↔ ∃ x ∈ xs, x ∈ g.entities ∧ ReflTransGen g.Composes x y := by
  intro g
  have h : g.WellFormed := wellFormed_run_empty registry history
  obtain ⟨lists, g₁, hdelete, h₁, hone⟩ := WellFormed.deletesLive xs h
  obtain ⟨lists', g', hdelete', h', hother⟩ := WellFormed.deletesLive ys h
  have hsame : lists.flatten.Perm lists'.flatten := by
    refine (List.perm_ext_iff_of_nodup hone.nodup hother.nodup).mpr fun y => ?_
    rw [hone.mem_iff, hother.mem_iff]
    simp only [horder.mem_iff]
  obtain rfl : g₁ = g' := h₁.eq_of_deletesLive h' hone hother hsame
  exact ⟨lists, lists', g₁, hdelete, hdelete', hone.nodup, hsame, hone.mem_iff⟩

/-- The first item takes the second along when it is deleted first, and otherwise only what the
second has left. -/
theorem deleteLive_furnished :
    ([⟨2⟩, ⟨6⟩, ⟨1⟩] : List EntityId).Perm [⟨1⟩, ⟨2⟩, ⟨6⟩] ∧
      ∃ g', furnished.deleteLive [⟨2⟩, ⟨6⟩, ⟨1⟩] = .ok ([[⟨5⟩, ⟨2⟩], [⟨6⟩], [⟨3⟩, ⟨1⟩]], g') ∧
        furnished.deleteLive [⟨1⟩, ⟨2⟩, ⟨6⟩] = .ok ([[⟨5⟩, ⟨2⟩, ⟨3⟩, ⟨1⟩], [], [⟨6⟩]], g') := by
  have horder : ([⟨2⟩, ⟨6⟩, ⟨1⟩] : List EntityId).Perm [⟨1⟩, ⟨2⟩, ⟨6⟩] := by decide
  obtain ⟨lists, lists', g', hdelete, hdelete', -⟩ :=
    run_empty_deleteLive furniture _ [⟨2⟩, ⟨6⟩, ⟨1⟩] [⟨1⟩, ⟨2⟩, ⟨6⟩] horder
  have hlists : (furnished.deleteLive [⟨2⟩, ⟨6⟩, ⟨1⟩]).map Prod.fst =
      .ok [[⟨5⟩, ⟨2⟩], [⟨6⟩], [⟨3⟩, ⟨1⟩]] := by
    decide +kernel
  have hlists' : (furnished.deleteLive [⟨1⟩, ⟨2⟩, ⟨6⟩]).map Prod.fst =
      .ok [[⟨5⟩, ⟨2⟩, ⟨3⟩, ⟨1⟩], [], [⟨6⟩]] := by
    decide +kernel
  obtain rfl := Except.ok.inj ((congrArg (Except.map Prod.fst) hdelete).symm.trans hlists)
  obtain rfl := Except.ok.inj ((congrArg (Except.map Prod.fst) hdelete').symm.trans hlists')
  exact ⟨horder, g', hdelete, hdelete'⟩

end ClassGraph.EntityGraph
