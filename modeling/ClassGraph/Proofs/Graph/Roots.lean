import ClassGraph.Proofs.Graph.Deletion

/-!
# The roots of a graph

A root is a live entity that is a part of none. Above every live entity there is a root
(`WellFormed.exists_root`), and only one (`WellFormed.root_unique`), so that what the deletions of
the roots take is a partition of the live entities.

A deletion of a root leaves what is below the others as it was (`WellFormed.partsFirst_of_deletes`):
an entity below another root has no owner among those that went. So the roots can be deleted one
after the other in any order, each with the list that its deletion alone would return
(`WellFormed.deleteEach_eq`), and nothing is left behind: `run_empty_deleteEach`.
-/

open Relation

namespace ClassGraph.EntityGraph

/-- The live entities that are a part of none, in the order of their numbers. -/
def roots (g : EntityGraph) : List EntityId :=
  g.entities.keys.filter fun x => (g.composerOf x).isNone

/-- Deletes entities one after the other, and returns what each deletion has returned. -/
def deleteEach (g : EntityGraph) :
    List EntityId → Except GraphError (List (List EntityId) × EntityGraph)
  | [] => .ok ([], g)
  | x :: rest => do
    let (order, g) ← g.delete x
    let (orders, g) ← g.deleteEach rest
    return (order :: orders, g)

/-- Deletions that are granted return their lists, the first one's in front. -/
theorem deleteEach_cons_of_ok {g g' g'' : EntityGraph} {x : EntityId} {rest order : List EntityId}
    {orders : List (List EntityId)} (hfirst : g.delete x = .ok (order, g'))
    (hrest : g'.deleteEach rest = .ok (orders, g'')) :
    g.deleteEach (x :: rest) = .ok (order :: orders, g'') := by
  unfold deleteEach
  rw [hfirst, Outcome.ok_bind]
  change (g'.deleteEach rest >>= fun result => pure (order :: result.1, result.2)) = _
  rw [hrest]
  rfl

namespace WellFormed

variable {g g' : EntityGraph} {x y : EntityId} {order : List EntityId}

/-- The roots are the live entities without an owner. -/
theorem mem_roots (h : g.WellFormed) :
    x ∈ g.roots ↔ x ∈ g.entities ∧ ∀ owner, ¬ g.Composes owner x := by
  unfold roots
  rw [List.mem_filter, Std.ExtTreeMap.mem_keys, Option.isNone_iff_eq_none, h.composerOf_eq_none_iff]

/-! ## Above an entity -/

/-- What holds of an entity when it holds of its owner holds of every entity. -/
theorem owners_induction (h : g.WellFormed) {motive : EntityId → Prop}
    (step : ∀ x, (∀ owner, g.Composes owner x → motive owner) → motive x) (x : EntityId) :
    motive x := by
  have hacyclic : Acyclic (Function.swap g.Composes) :=
    fun x hx => h.acyclic x (transGen_swap.mp hx)
  -- Owners are live, so that there are finitely many.
  have hlive : ∀ part owner, Function.swap g.Composes part owner →
      owner ∈ g.entities.keys.toFinset := by
    intro part owner hc
    rw [List.mem_toFinset, Std.ExtTreeMap.mem_keys]
    exact (h.live_of_composes hc).1
  exact hacyclic.induction _ hlive step x

/-- Every live entity is a root or below one. -/
theorem exists_root (h : g.WellFormed) (hx : x ∈ g.entities) :
    ∃ root ∈ g.roots, ReflTransGen g.Composes root x := by
  induction x using h.owners_induction with
  | step x ih =>
    by_cases hfree : ∀ owner, ¬ g.Composes owner x
    · exact ⟨x, h.mem_roots.mpr ⟨hx, hfree⟩, .refl⟩
    · obtain ⟨owner, hc⟩ := not_forall_not.mp hfree
      obtain ⟨root, hroot, hchain⟩ := ih owner hc (h.live_of_composes hc).1
      exact ⟨root, hroot, hchain.tail hc⟩

/-- A chain of compositions leads to a root from the root only. -/
theorem eq_of_chain_to_root (h : g.WellFormed) (hroot : y ∈ g.roots)
    (hchain : ReflTransGen g.Composes x y) : x = y := by
  rcases hchain.cases_tail with heq | ⟨owner, -, hc⟩
  · exact heq.symm
  · exact absurd hc ((h.mem_roots.mp hroot).2 owner)

/-- No entity is below two roots. -/
theorem root_unique (h : g.WellFormed) {root root' : EntityId} (hroot : root ∈ g.roots)
    (hroot' : root' ∈ g.roots) (hx : ReflTransGen g.Composes root x)
    (hx' : ReflTransGen g.Composes root' x) : root = root' := by
  rcases h.chain_total hx hx' with hchain | hchain
  · exact h.eq_of_chain_to_root hroot' hchain
  · exact (h.eq_of_chain_to_root hroot hchain).symm

/-! ## What the deletion of a root leaves -/

/-- The edges that a deletion leaves, oldest first. -/
theorem allEdges_of_deletes (hdeletes : g.Deletes x order g') :
    g'.allEdges = g.allEdges.filter fun e => e.source ∉ order ∧ e.target ∉ order := by
  have hlist : g'.edges.toList =
      g.edges.toList.filter fun ie => ie.2.source ∉ order ∧ ie.2.target ∉ order := by
    refine Ordered.eq_of_ascending_keys (f := Prod.fst) Std.ExtTreeMap.ordered_keys_toList
      (Std.ExtTreeMap.ordered_keys_toList.filter _) ?_
    rintro ⟨i, e⟩
    rw [List.mem_filter, Std.ExtTreeMap.mem_toList_iff_getElem?_eq_some,
      Std.ExtTreeMap.mem_toList_iff_getElem?_eq_some, hdeletes.edges, Option.filter_eq_some_iff]
  unfold allEdges
  rw [hlist, List.filter_map]
  rfl

/-- What a root does not take keeps its parts: an owner of something that goes goes as well. -/
theorem notMem_of_composes (h : g.WellFormed) (hdeletes : g.Deletes x order g')
    (hroot : x ∈ g.roots) {owner part : EntityId} (howner : owner ∉ order)
    (hc : g.Composes owner part) : part ∉ order := by
  intro hpart
  rcases ((hdeletes.mem_iff part).mp hpart).cases_tail with heq | ⟨owner', hchain, hc'⟩
  · exact (h.mem_roots.mp hroot).2 owner (heq ▸ hc)
  · rw [h.owner_unique hc' hc] at hchain
    exact howner ((hdeletes.mem_iff owner).mpr hchain)

/-- An entity that a root does not take has the parts that it had. -/
theorem partsOf_of_deletes (h : g.WellFormed) (h' : g'.WellFormed)
    (hdeletes : g.Deletes x order g') (hroot : x ∈ g.roots) (hy : y ∉ order) :
    g'.partsOf y = g.partsOf y := by
  unfold partsOf
  rw [h'.edgesFrom_eq_filter, h.edgesFrom_eq_filter, allEdges_of_deletes hdeletes]
  simp only [List.filter_filter]
  congr 1
  refine List.filter_congr fun e he => ?_
  obtain ⟨i, hi⟩ := mem_allEdges.mp he
  -- A composition of the entity is among the edges that are left.
  by_cases hkind : e.kind = .composition
  · by_cases hs : e.source = y
    · have hpart : e.target ∉ order :=
        h.notMem_of_composes hdeletes hroot hy ⟨i, e, hi, hkind, hs, rfl⟩
      simp [hs, hy, hpart]
    · simp [hs]
  · simp [beq_eq_false_iff_ne.mpr hkind]

/-- What a deletion would take along with an entity that a root does not take is what it would have
taken before, in the same order. -/
theorem partsFirst_of_deletes (h : g.WellFormed) (h' : g'.WellFormed)
    (hdeletes : g.Deletes x order g') (hroot : x ∈ g.roots) (hy : y ∉ order) :
    g'.partsFirst y = g.partsFirst y := by
  induction y using h.parts_induction with
  | step y ih =>
    rw [h'.partsFirst_eq, h.partsFirst_eq, h.partsOf_of_deletes h' hdeletes hroot hy]
    congr 1
    refine List.flatMap_congr fun part hpart => ih part hpart ?_
    exact h.notMem_of_composes hdeletes hroot hy (h.mem_partsOf.mp hpart)

/-! ## All roots -/

/-- Different roots can be deleted one after the other. Each deletion returns what it would return
in the given graph, and together they take the returned entities and no others. -/
theorem deleteEach_eq (h : g.WellFormed) {rest : List EntityId} (hnodup : rest.Nodup)
    (hroots : ∀ x ∈ rest, x ∈ g.roots) :
    ∃ g', g.deleteEach rest = .ok (rest.map g.partsFirst, g') ∧ g'.WellFormed ∧
      ∀ y, y ∈ g'.entities ↔ y ∈ g.entities ∧ y ∉ rest.flatMap g.partsFirst := by
  induction rest generalizing g with
  | nil => exact ⟨g, rfl, h, fun y => by simp⟩
  | cons x rest ih =>
    obtain ⟨hx, hnodup⟩ := List.nodup_cons.mp hnodup
    obtain ⟨hroot, hroots⟩ := List.forall_mem_cons.mp hroots
    obtain ⟨order, g₁, hdelete, hdeletes⟩ := h.exists_delete (h.mem_roots.mp hroot).1
    have h₁ : g₁.WellFormed := h.delete hdelete
    have horder : order = g.partsFirst x :=
      congrArg Prod.fst (delete_eq_ok_iff.mp hdelete).2
    -- The other roots are not below the first one, and stay roots.
    have hkept : ∀ y ∈ rest, y ∉ order := by
      intro y hy hmem
      have heq := h.eq_of_chain_to_root (hroots y hy) ((hdeletes.mem_iff y).mp hmem)
      exact hx (heq ▸ hy)
    have hroots₁ : ∀ y ∈ rest, y ∈ g₁.roots := by
      intro y hy
      obtain ⟨hylive, hyfree⟩ := h.mem_roots.mp (hroots y hy)
      exact h₁.mem_roots.mpr ⟨hdeletes.mem_entities_iff.mpr ⟨hylive, hkept y hy⟩,
        fun owner hc => hyfree owner (hdeletes.composes_iff.mp hc).1⟩
    have hsame : ∀ y ∈ rest, g₁.partsFirst y = g.partsFirst y :=
      fun y hy => h.partsFirst_of_deletes h₁ hdeletes hroot (hkept y hy)
    obtain ⟨g', hrest, h', hleft⟩ := ih h₁ hnodup hroots₁
    rw [List.map_congr_left hsame] at hrest
    refine ⟨g', ?_, h', fun y => ?_⟩
    · rw [deleteEach_cons_of_ok hdelete hrest, List.map_cons, horder]
    · rw [hleft, hdeletes.mem_entities_iff, horder, List.flatMap_congr hsame, List.flatMap_cons,
        List.mem_append, not_or, and_assoc]

/-- What the deletions of different roots take has no entity in common. -/
theorem pairwise_disjoint_partsFirst (h : g.WellFormed) {rest : List EntityId}
    (hnodup : rest.Nodup) (hroots : ∀ x ∈ rest, x ∈ g.roots) :
    rest.Pairwise fun x y => (g.partsFirst x).Disjoint (g.partsFirst y) := by
  refine hnodup.imp_of_mem fun {x y} hx hy hne z hzx hzy => hne ?_
  exact h.root_unique (hroots x hx) (hroots y hy) (h.mem_partsFirst.mp hzx)
    (h.mem_partsFirst.mp hzy)

/-- What the deletions of all roots take are the live entities, each once. -/
theorem perm_flatMap_partsFirst (h : g.WellFormed) {order : List EntityId}
    (horder : order.Perm g.roots) : (order.flatMap g.partsFirst).Perm g.entities.keys := by
  have hroots : ∀ x ∈ order, x ∈ g.roots := fun x hx => horder.mem_iff.mp hx
  have hnodup : order.Nodup := horder.nodup_iff.mpr (Std.ExtTreeMap.nodup_keys.filter _)
  have hflat : (order.flatMap g.partsFirst).Nodup :=
    List.nodup_flatMap.mpr
      ⟨fun x _ => h.nodup_partsFirst x, h.pairwise_disjoint_partsFirst hnodup hroots⟩
  refine (List.perm_ext_iff_of_nodup hflat Std.ExtTreeMap.nodup_keys).mpr fun y => ?_
  rw [Std.ExtTreeMap.mem_keys, List.mem_flatMap]
  constructor
  · rintro ⟨x, hx, hy⟩
    exact h.live_of_chain (h.mem_roots.mp (hroots x hx)).1 (h.mem_partsFirst.mp hy)
  · intro hy
    obtain ⟨root, hroot, hchain⟩ := h.exists_root hy
    exact ⟨root, horder.mem_iff.mpr hroot, h.mem_partsFirst.mpr hchain⟩

/-- A graph without entities has no edges, and nothing in its indexes. -/
theorem eq_empty_of_entities (h : g.WellFormed) (hnone : ∀ x, x ∉ g.entities) :
    g.entities = ∅ ∧ g.edges = ∅ ∧ g.outgoing = ∅ ∧ g.incoming = ∅ ∧ g.composer = ∅ := by
  have hedge : ∀ i : EdgeId, i ∉ g.edges := by
    intro i hi
    obtain ⟨e, he⟩ := (Ordered.mem_iff_exists _ _).mp hi
    exact hnone _ (h.source_live he)
  have hpart : ∀ x : EntityId, x ∉ g.composer := by
    intro x hx
    obtain ⟨i, hi⟩ := (Ordered.mem_iff_exists _ _).mp hx
    obtain ⟨e, he, -⟩ := (h.indexed.composer x i).mp hi
    exact hnone _ (h.source_live he)
  simp only [Std.ExtTreeMap.eq_empty_iff_forall_not_mem]
  exact ⟨hnone, hedge, fun x hx => hnone x ((h.indexed.outgoing.mem_index x).mp hx),
    fun x hx => hnone x ((h.indexed.incoming.mem_index x).mp hx), hpart⟩

end WellFormed

/-- Behind every history of requests, the entities without an owner can be deleted one after the
other, in any order. No two of the returned lists have an entity in common, together they hold each
live entity once, and the graph behind them has no entities, no edges and empty indexes. -/
theorem run_empty_deleteEach (registry : Registry) (history : List Request) :
    let g := (EntityGraph.empty registry).run history
    ∀ order, order.Perm g.roots →
      ∃ lists g', g.deleteEach order = .ok (lists, g') ∧ lists = order.map g.partsFirst ∧
        lists.Pairwise List.Disjoint ∧ lists.flatten.Perm g.entities.keys ∧
        g'.entities = ∅ ∧ g'.edges = ∅ ∧ g'.outgoing = ∅ ∧ g'.incoming = ∅ ∧ g'.composer = ∅ := by
  intro g order horder
  have h : g.WellFormed := wellFormed_run_empty registry history
  have hroots : ∀ x ∈ order, x ∈ g.roots := fun x hx => horder.mem_iff.mp hx
  have hnodup : order.Nodup := horder.nodup_iff.mpr (Std.ExtTreeMap.nodup_keys.filter _)
  have hperm := h.perm_flatMap_partsFirst horder
  obtain ⟨g', hdelete, h', hleft⟩ := h.deleteEach_eq hnodup hroots
  have hnone : ∀ x, x ∉ g'.entities := by
    intro x hx
    obtain ⟨hlive, hkept⟩ := (hleft x).mp hx
    exact hkept (hperm.mem_iff.mpr (Std.ExtTreeMap.mem_keys.mpr hlive))
  refine ⟨_, g', hdelete, rfl, ?_, ?_, h'.eq_empty_of_entities hnone⟩
  · exact List.pairwise_map.mpr (h.pairwise_disjoint_partsFirst hnodup hroots)
  · rwa [← List.flatMap_def]

/-- A registry with one type. -/
def furniture : Registry :=
  let item : TypeDef :=
    { tag := "Item", base := none, isAbstract := false, operations := ∅, roles := ∅ }
  { types := .ofList [(item.tag, item)] }

/-- The first item has the second and the third as parts, and the second has the fifth. The sixth
refers to the fifth, and the fourth stands alone. -/
def furnished : EntityGraph :=
  let owns (x y : Nat) : Request := .link { source := ⟨x⟩, target := ⟨y⟩, kind := .composition }
  (EntityGraph.empty furniture).run
    [.create "Item" [], .create "Item" [], .create "Item" [], .create "Item" [],
      .create "Item" [], .create "Item" [], owns 1 2, owns 1 3, owns 2 5,
      .link { source := ⟨6⟩, target := ⟨5⟩, kind := .association }]

/-- In an order that is not that of their numbers, the three roots take all six items. -/
theorem deleteEach_furnished :
    [⟨6⟩, ⟨1⟩, ⟨4⟩].Perm furnished.roots ∧
      ∃ lists g', furnished.deleteEach [⟨6⟩, ⟨1⟩, ⟨4⟩] = .ok (lists, g') ∧
        lists = [[⟨6⟩], [⟨5⟩, ⟨2⟩, ⟨3⟩, ⟨1⟩], [⟨4⟩]] ∧ lists.flatten.Perm furnished.entities.keys ∧
        g'.entities = ∅ ∧ g'.edges = ∅ := by
  have horder : [⟨6⟩, ⟨1⟩, ⟨4⟩].Perm furnished.roots := by decide
  obtain ⟨lists, g', hdelete, hlists, -, hperm, hentities, hedges, -⟩ :=
    run_empty_deleteEach furniture _ [⟨6⟩, ⟨1⟩, ⟨4⟩] horder
  exact ⟨horder, lists, g', hdelete, hlists.trans (by decide), hperm, hentities, hedges⟩

end ClassGraph.EntityGraph
