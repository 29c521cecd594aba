import ClassGraph.Proofs.Graph.Invariant
import ClassGraph.Proofs.Graph.Walk

/-!
# What a deletion takes

A deletion takes an entity and everything that compositions lead to from it, in post-order: part by
part in the order of the compositions, each part behind its own parts, and the entity last
(`PostOrder`). The order is fixed by the sequence of the compositions alone (`PostOrder.unique`), so
that other edges have no say in it. What is left is the graph without the deleted entities and the
edges that touch one of them. `run_empty_delete` states all of this for every graph that a history
of requests leads to.
-/

open Relation

namespace ClassGraph.EntityGraph

/-! ## Post-order -/

/-- The compositions as pairs of an owner and a part, oldest first. -/
def ownerships (g : EntityGraph) : List (EntityId × EntityId) :=
  (g.allEdges.filter fun e => e.kind = .composition).map fun e => (e.source, e.target)

/-- A list holds an entity behind the post-orders of its parts, which follow one another in the
order of the pairs that name them. -/
inductive PostOrder (pairs : List (EntityId × EntityId)) : EntityId → List EntityId → Prop
  /-- One post-order for each part, and the owner last. -/
  | behindParts {owner : EntityId} {orders : List (List EntityId)} :
    List.Forall₂ (PostOrder pairs) ((pairs.filter fun p => p.1 = owner).map Prod.snd) orders →
      PostOrder pairs owner (orders.flatten ++ [owner])

namespace WellFormed

variable {g : EntityGraph}

/-- The parts of an entity are those that a scan of all compositions finds. -/
theorem partsOf_eq_ownerships (h : g.WellFormed) (x : EntityId) :
    g.partsOf x = (g.ownerships.filter fun p => p.1 = x).map Prod.snd := by
  unfold partsOf ownerships
  rw [h.edgesFrom_eq_filter, List.filter_map, List.map_map, List.filter_filter, List.filter_filter]
  congr 1
  exact List.filter_congr fun e _ => by simp [Bool.and_comm, Bool.beq_eq_decide_eq]

/-- The entities of a deletion are in post-order. -/
theorem postOrder_partsFirst (h : g.WellFormed) (x : EntityId) :
    PostOrder g.ownerships x (g.partsFirst x) := by
  induction x using h.parts_induction with
  | step x ih =>
    rw [h.partsFirst_eq, List.flatMap_def]
    refine .behindParts ?_
    rw [← h.partsOf_eq_ownerships, List.forall₂_map_right_iff, List.forall₂_same]
    exact ih

/-- Nothing else is in post-order. -/
theorem eq_partsFirst_of_postOrder (h : g.WellFormed) (x : EntityId) :
    ∀ {order : List EntityId}, PostOrder g.ownerships x order → order = g.partsFirst x := by
  induction x using h.parts_induction with
  | step x ih =>
    rintro _ ⟨horders⟩
    rename_i orders
    rw [← h.partsOf_eq_ownerships] at horders
    -- Part by part, the only post-order is the one of the descent.
    have hparts : List.Forall₂ (fun y order => g.partsFirst y = order) (g.partsOf x) orders := by
      refine ((List.forall₂_and_left _ _).mpr ⟨ih, horders⟩).imp ?_
      exact fun _ _ hy => (hy.1 hy.2).symm
    rw [← List.forall₂_map_left_iff, List.forall₂_eq_eq_eq] at hparts
    rw [h.partsFirst_eq, List.flatMap_def, hparts]

/-! ## No repetitions, and parts before owners -/

/-- Two compositions have different parts. -/
theorem pairwise_ownerships (h : g.WellFormed) :
    g.ownerships.Pairwise fun p q => p.2 ≠ q.2 := by
  unfold ownerships allEdges
  rw [List.pairwise_map, List.filter_map, List.pairwise_map]
  refine (Std.ExtTreeMap.distinct_keys_toList.filter _).imp_of_mem ?_
  intro p q hp hq hne ht
  rw [List.mem_filter, Std.ExtTreeMap.mem_toList_iff_getElem?_eq_some] at hp hq
  -- Two compositions with one target would be the same edge, and the edges have different numbers.
  have heq := h.edge_eq_of_target_eq hp.1 hq.1 (by simpa using hp.2) (by simpa using hq.2) ht
  exact hne (Std.LawfulEqOrd.compare_eq_iff_eq.mpr heq)

/-- No part of an entity comes twice. -/
theorem nodup_partsOf (h : g.WellFormed) (x : EntityId) : (g.partsOf x).Nodup := by
  rw [h.partsOf_eq_ownerships, List.Nodup, List.pairwise_map]
  exact h.pairwise_ownerships.filter _

/-- The entities of a deletion are all different. -/
theorem nodup_partsFirst (h : g.WellFormed) (x : EntityId) : (g.partsFirst x).Nodup := by
  induction x using h.parts_induction with
  | step x ih =>
    rw [h.partsFirst_eq, List.nodup_append]
    refine ⟨List.nodup_flatMap.mpr ⟨ih, ?_⟩, List.nodup_singleton x, ?_⟩
    · -- Nothing is below two different parts.
      refine (h.nodup_partsOf x).imp_of_mem fun {a b} ha hb hab y hya hyb => hab ?_
      exact h.eq_of_common_part (h.mem_partsOf.mp ha) (h.mem_partsOf.mp hb)
        (h.mem_partsFirst.mp hya) (h.mem_partsFirst.mp hyb)
    · -- The entity is not below one of its parts.
      rintro y hy _ hx rfl
      obtain rfl := List.mem_singleton.mp hx
      obtain ⟨part, hpart, hchain⟩ := List.mem_flatMap.mp hy
      exact h.acyclic y (TransGen.head' (h.mem_partsOf.mp hpart) (h.mem_partsFirst.mp hchain))

/-- Every part stands before its owner. -/
theorem sublist_partsFirst (h : g.WellFormed) (x : EntityId) :
    ∀ {owner part : EntityId}, owner ∈ g.partsFirst x → g.Composes owner part →
      [part, owner].Sublist (g.partsFirst x) := by
  induction x using h.parts_induction with
  | step x ih =>
    intro owner part howner hc
    rw [h.partsFirst_eq] at howner ⊢
    rcases List.mem_append.mp howner with howner | howner
    · -- An owner below a part stands in the list of this part, behind its own parts.
      obtain ⟨y, hy, howner⟩ := List.mem_flatMap.mp howner
      have hsub : (g.partsFirst y).Sublist ((g.partsOf x).flatMap g.partsFirst) :=
        List.sublist_flatten_of_mem (List.mem_map_of_mem hy)
      exact ((ih y hy howner hc).trans hsub).trans (List.sublist_append_left ..)
    · obtain rfl := List.mem_singleton.mp howner
      refine List.Sublist.append (List.singleton_sublist.mpr ?_) (List.Sublist.refl [owner])
      exact List.mem_flatMap.mpr ⟨part, h.mem_partsOf.mpr hc, h.mem_partsFirst.mpr .refl⟩

end WellFormed

/-- In a list without repetitions, what stands before has the smaller index. -/
theorem idxOf_lt_of_sublist {a b : EntityId} {l : List EntityId} (hl : l.Nodup)
    (hab : [a, b].Sublist l) : l.idxOf a < l.idxOf b := by
  obtain ⟨front, back, rfl, ha, hb⟩ := List.cons_sublist_iff.mp hab
  have hb : b ∉ front := fun hf =>
    (List.nodup_append.mp hl).2.2 b hf b (List.singleton_sublist.mp hb) rfl
  rw [List.idxOf_append_of_mem ha, List.idxOf_append_of_notMem hb]
  have := List.idxOf_lt_length_of_mem ha
  omega

/-! ## The deletion -/

/-- What a deletion returns and leaves behind. -/
structure Deletes (g : EntityGraph) (x : EntityId) (order : List EntityId) (g' : EntityGraph) :
    Prop where
  /-- Nothing is returned twice. -/
  nodup : order.Nodup
  /-- The entity and all its parts, direct or not, are returned. -/
  mem_iff : ∀ y, y ∈ order ↔ ReflTransGen g.Composes x y
  /-- They are the entity and what a walk over compositions visits. -/
  reachable : ∃ walk, g.reachable x .ownership = .ok walk ∧ ∀ y, y ∈ order ↔ y = x ∨ y ∈ walk.rest
  /-- They are in post-order. -/
  postOrder : PostOrder g.ownerships x order
  /-- No other list is. -/
  unique : ∀ order', PostOrder g.ownerships x order' → order' = order
  /-- Every part stands before its owner. -/
  part_lt : ∀ owner part, owner ∈ order → g.Composes owner part →
    order.idxOf part < order.idxOf owner
  /-- The entity itself is last. -/
  last : order.getLast? = some x
  /-- The entities that are left are those that were not returned, unchanged. -/
  entities : ∀ y : EntityId, g'.entities[y]? = if y ∈ order then none else g.entities[y]?
  /-- The edges that are left are those between entities that are left, unchanged. -/
  edges : ∀ i : EdgeId, g'.edges[i]? =
    g.edges[i]?.filter fun e => e.source ∉ order ∧ e.target ∉ order
  /-- The types stay as they are. -/
  registry : g'.registry = g.registry
  /-- The number of the next entity stays as it is. -/
  nextEntity : g'.nextEntity = g.nextEntity
  /-- The number of the next edge stays as it is. -/
  nextEdge : g'.nextEdge = g.nextEdge

/-- A live entity can be deleted. -/
theorem WellFormed.exists_delete {g : EntityGraph} (h : g.WellFormed) {x : EntityId}
    (hx : x ∈ g.entities) :
    ∃ order g', g.delete x = .ok (order, g') ∧ g.Deletes x order g' := by
  obtain ⟨-, hentities, hedges, hregistry, hnextEntity, hnextEdge⟩ :=
    WellFormed.foldl_detach (g.partsFirst x) h
  refine ⟨g.partsFirst x, (g.partsFirst x).foldl EntityGraph.detach g,
    delete_eq_ok_iff.mpr ⟨hx, rfl⟩, ?_⟩
  exact {
    nodup := h.nodup_partsFirst x
    mem_iff := fun y => h.mem_partsFirst
    reachable := by
      refine ⟨Walk.start g .ownership x, reachable_of_mem hx .ownership, fun y => ?_⟩
      rw [h.mem_partsFirst, Walk.mem_rest_start_iff h, joins_ownership_eq]
      by_cases hy : y = x
      · simp [hy, ReflTransGen.refl]
      · simp [hy]
    postOrder := h.postOrder_partsFirst x
    unique := fun _ => h.eq_partsFirst_of_postOrder x
    part_lt := fun _ _ howner hc =>
      idxOf_lt_of_sublist (h.nodup_partsFirst x) (h.sublist_partsFirst x howner hc)
    last := by
      rw [h.partsFirst_eq]
      exact List.getLast?_concat
    entities := hentities
    edges := hedges
    registry := hregistry
    nextEntity := hnextEntity
    nextEdge := hnextEdge }

/-- Live behind a deletion is what was live and was not taken. -/
theorem Deletes.mem_entities_iff {g g' : EntityGraph} {x y : EntityId} {order : List EntityId}
    (hdeletes : g.Deletes x order g') : y ∈ g'.entities ↔ y ∈ g.entities ∧ y ∉ order := by
  rw [Ordered.mem_iff_exists, Ordered.mem_iff_exists, hdeletes.entities]
  by_cases hy : y ∈ order
  · simp [hy]
  · simp [hy]

/-- Behind a deletion, what was not taken owns what it owned of the rest. -/
theorem Deletes.composes_iff {g g' : EntityGraph} {x owner part : EntityId} {order : List EntityId}
    (hdeletes : g.Deletes x order g') :
    g'.Composes owner part ↔ g.Composes owner part ∧ owner ∉ order ∧ part ∉ order := by
  unfold Composes
  simp only [hdeletes.edges, Option.filter_eq_some_iff, decide_eq_true_eq]
  constructor
  · rintro ⟨i, e, ⟨he, hs, ht⟩, hkind, rfl, rfl⟩
    exact ⟨⟨i, e, he, hkind, rfl, rfl⟩, hs, ht⟩
  · rintro ⟨⟨i, e, he, hkind, rfl, rfl⟩, hs, ht⟩
    exact ⟨i, e, ⟨he, hs, ht⟩, hkind, rfl, rfl⟩

/-- What a deletion takes was live. -/
theorem WellFormed.live_of_deletes {g g' : EntityGraph} (h : g.WellFormed) {x : EntityId}
    (hx : x ∈ g.entities) {order : List EntityId} (hdeletes : g.Deletes x order g') :
    ∀ y ∈ order, y ∈ g.entities :=
  fun y hy => h.live_of_chain hx ((hdeletes.mem_iff y).mp hy)

/-- A walk over compositions visits what a deletion takes, other than the entity itself. -/
theorem WellFormed.mem_rest_iff_of_deletes {g g' : EntityGraph} (h : g.WellFormed) {x : EntityId}
    {order : List EntityId} (hdeletes : g.Deletes x order g') (y : EntityId) :
    y ∈ (Walk.start g .ownership x).rest ↔ y ∈ order ∧ y ≠ x := by
  rw [Walk.mem_rest_start_iff h, joins_ownership_eq, hdeletes.mem_iff, and_comm]

/-- An entity that is not live cannot be deleted. -/
theorem delete_of_notMem {g : EntityGraph} {x : EntityId} (hx : x ∉ g.entities) :
    g.delete x = .error (.unknown (.entity x)) := by
  unfold delete
  rw [requireLive_of_notMem hx]
  rfl

/-- A deletion takes a live entity with all its parts, in an order that only compositions have a say
in, and the edges that touch one of them; for an entity that is not live it is refused and changes
nothing. -/
theorem run_empty_delete (registry : Registry) (history : List Request) (x : EntityId) :
    let g := (EntityGraph.empty registry).run history
    (x ∈ g.entities → ∃ order g', g.delete x = .ok (order, g') ∧ g.Deletes x order g') ∧
    (x ∉ g.entities → g.delete x = .error (.unknown (.entity x)) ∧
      g.attempt (.delete x) = (.error (.unknown (.entity x)), g)) ∧
    ∀ (registry' : Registry) (history' : List Request),
      let g' := (EntityGraph.empty registry').run history'
      x ∈ g.entities → x ∈ g'.entities → g'.ownerships = g.ownerships →
        (g'.delete x).map Prod.fst = (g.delete x).map Prod.fst := by
  intro g
  have h : g.WellFormed := wellFormed_run_empty registry history
  refine ⟨fun hx => h.exists_delete hx, fun hx => ⟨delete_of_notMem hx, ?_⟩, ?_⟩
  · exact attempt_of_error (congrArg (Except.map _) (delete_of_notMem hx))
  · intro registry' history' g' hx hx' howns
    have h' : g'.WellFormed := wellFormed_run_empty registry' history'
    rw [delete_eq_ok_iff.mpr ⟨hx, rfl⟩, delete_eq_ok_iff.mpr ⟨hx', rfl⟩]
    -- Equal compositions have one post-order, whatever other edges the two graphs have.
    refine congrArg Except.ok (h.eq_partsFirst_of_postOrder x ?_)
    exact howns ▸ h'.postOrder_partsFirst x

/-- The parts come in the order of their compositions, and what the third item depends on has no
say. -/
example :
    let item : TypeDef :=
      { tag := "Item", base := none, isAbstract := false, operations := ∅, roles := ∅ }
    let registry : Registry := { types := .ofList [("Item", item)] }
    let owns (x y : Nat) : Request := .link { source := ⟨x⟩, target := ⟨y⟩, kind := .composition }
    let g := (EntityGraph.empty registry).run
      [.create "Item" [], .create "Item" [], .create "Item" [], .create "Item" [],
        .link { source := ⟨3⟩, target := ⟨1⟩, kind := .dependency }, owns 1 4, owns 1 2, owns 2 3]
    (g.delete ⟨1⟩).toOption.map Prod.fst = some [⟨4⟩, ⟨3⟩, ⟨2⟩, ⟨1⟩] := by
  decide

end ClassGraph.EntityGraph
