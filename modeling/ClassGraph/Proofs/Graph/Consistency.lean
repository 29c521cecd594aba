import ClassGraph.Graph.Consistency
import ClassGraph.Proofs.Graph.Invariant

/-!
# The inspection of an entity graph

`inconsistencies` finds nothing exactly when each of its four tests does
(`inconsistencies_eq_nil_iff`). Each of them passes a sound graph (`Sound.inconsistencies_eq_nil`),
and a graph that passes them all is sound (`sound_of_inconsistencies_eq_nil`), although the tests
look at sizes and at single entries of an index that may itself be damaged, and walk through it. So
an inspection decides soundness, of graphs that requests lead to and of all others. The tests name
an edge by the number that it holds and find it by the number under which it is stored; where these
are the same, the owners that they follow are those of the edges: `inspection_eq_nil_iff`. With the
invariant this gives the state of a graph behind every history of requests: `run_empty_consistent`.
-/

open Relation

namespace ClassGraph.EntityGraph

/-! ## The compositions by target -/

/-- The compositions of an entity among some edges, in their order. -/
def compositionsTo (edges : List (EdgeId × Edge)) (x : EntityId) : List (EdgeId × Edge) :=
  edges.filter fun ie => ie.2.kind = .composition ∧ ie.2.target = x

/-- What an inspection collects of an edge. -/
def collected? (ie : EdgeId × Edge) : Option (EntityId × EdgeId) :=
  if ie.2.kind = .composition then some (ie.2.target, ie.2.id) else none

/-- What is collected under an entity are the numbers of its compositions. -/
theorem filterMap_collected? (edges : List (EdgeId × Edge)) (x : EntityId) :
    ((edges.filterMap collected?).filter fun entry => entry.1 = x).map Prod.snd =
      (compositionsTo edges x).map fun ie => ie.2.id := by
  unfold compositionsTo
  rw [← List.filterMap_eq_filter, List.filterMap_filterMap, ← List.filterMap_eq_filter,
    List.map_filterMap, List.map_filterMap]
  refine List.filterMap_congr fun ie _ => ?_
  by_cases hkind : ie.2.kind = .composition
  · by_cases ht : ie.2.target = x <;> simp [collected?, Option.guard, hkind, ht]
  · simp [collected?, Option.guard, hkind]

/-- The numbers of the compositions of an entity are collected under it. -/
theorem getElem?_compositions (g : EntityGraph) (x : EntityId) :
    g.compositions[x]? =
      if ((compositionsTo g.edges.toList x).map fun ie => ie.2.id) = [] then none
      else some ((compositionsTo g.edges.toList x).map fun ie => ie.2.id) := by
  have hfold : g.compositions = (g.edges.toList.filterMap collected?).foldl
      (fun found entry => Keyed.push entry.1 entry.2 found) ∅ := by
    rw [List.foldl_filterMap, compositions]
    congr 1
    funext found ie
    unfold collected?
    split_ifs with hkind
    · exact if_pos hkind
    · exact if_neg hkind
  rw [hfold, Ordered.getElem?_foldl_push, filterMap_collected?]
  simp

/-- The compositions to an entity are the edges of this kind that have it as their target. -/
theorem mem_compositionsTo {g : EntityGraph} {x : EntityId} {ie : EdgeId × Edge} :
    ie ∈ compositionsTo g.edges.toList x ↔
      g.edges[ie.1]? = some ie.2 ∧ ie.2.kind = .composition ∧ ie.2.target = x := by
  rw [compositionsTo, List.mem_filter, ← Std.ExtTreeMap.mem_toList_iff_getElem?_eq_some,
    decide_eq_true_iff]

/-! ## The four tests -/

/-- An inspection finds nothing when every edge joins live entities, every part has one composition
and the index names it, the index names nothing else, and no chain of owners comes back. -/
theorem inconsistencies_eq_nil_iff (g : EntityGraph) :
    g.inconsistencies = [] ↔
      (∀ (i : EdgeId) (e : Edge), g.edges[i]? = some e →
        e.source ∈ g.entities ∧ e.target ∈ g.entities) ∧
      (∀ (x : EntityId) (ids : List EdgeId), g.compositions[x]? = some ids →
        ids.length ≤ 1 ∧ g.composer[x]? = ids.head?) ∧
      g.composer.size = g.compositions.size ∧
      ∀ x ∈ g.entities, g.ownersCycle x g.entities.size x = false := by
  unfold inconsistencies
  simp only [List.append_eq_nil_iff, List.filterMap_eq_nil_iff, List.flatMap_eq_nil_iff, and_assoc]
  refine and_congr ?_ (and_congr ?_ (and_congr ?_ ?_))
  · simp [← contains_iff]
  · simp
  · simp
  · simp only [Prod.forall, Std.ExtTreeMap.mem_toList_iff_getElem?_eq_some]
    refine forall_congr' fun x => ?_
    rw [Ordered.mem_iff_exists, forall_exists_index]
    simp

variable {g : EntityGraph}

/-! ## Sound graphs -/

/-- The index of compositions leads from the second entity to the first as its owner. -/
def Owned (g : EntityGraph) (owner part : EntityId) : Prop := g.composerOf part = some owner

/-- Edges join live entities, no entity has two compositions, the index of compositions names the
one of each part and nothing else, and the owners that it leads to have no cycle. The other indexes
may hold anything. -/
structure Sound (g : EntityGraph) : Prop where
  /-- Every edge joins live entities. -/
  live : ∀ (i : EdgeId) (e : Edge), g.edges[i]? = some e →
    e.source ∈ g.entities ∧ e.target ∈ g.entities
  /-- An entity is the target of one composition at most. -/
  unique : ∀ (i j : EdgeId) (e f : Edge), g.edges[i]? = some e → g.edges[j]? = some f →
    e.kind = .composition → f.kind = .composition → e.target = f.target → i = j
  /-- The index of compositions names for each part its composition. -/
  composer : ∀ (part : EntityId) (i : EdgeId), g.composer[part]? = some i ↔
    ∃ (j : EdgeId) (e : Edge), g.edges[j]? = some e ∧ e.kind = .composition ∧ e.target = part ∧
      e.id = i
  /-- No entity is its own owner, directly or not. -/
  acyclic : Acyclic g.Owned

/-- Where every edge is stored under its own number, the index that names the compositions leads to
the owners that they have. -/
theorem owned_eq_composes (h : ComposerIndex g.composer g.edges) : g.Owned = g.Composes := by
  funext owner part
  exact propext h.composerOf_eq_some_iff

/-- Where every edge is stored under its own number, the number that an edge holds finds it. -/
theorem exists_edge_id_iff (hown : ∀ (i : EdgeId) (e : Edge), g.edges[i]? = some e → e.id = i)
    {part : EntityId} {i : EdgeId} :
    (∃ (j : EdgeId) (e : Edge), g.edges[j]? = some e ∧ e.kind = .composition ∧ e.target = part ∧
        e.id = i) ↔
      ∃ e : Edge, g.edges[i]? = some e ∧ e.kind = .composition ∧ e.target = part := by
  constructor
  · rintro ⟨j, e, he, hkind, ht, rfl⟩
    exact ⟨e, (hown j e he).symm ▸ he, hkind, ht⟩
  · rintro ⟨e, he, hkind, ht⟩
    exact ⟨i, e, he, hkind, ht, hown i e he⟩

/-- A well-formed graph is sound. -/
theorem WellFormed.sound (h : g.WellFormed) : g.Sound where
  live _ _ he := ⟨h.source_live he, h.target_live he⟩
  unique _ _ _ _ := h.edge_eq_of_target_eq
  composer part i := (h.indexed.composer part i).trans
    (exists_edge_id_iff fun _ _ => h.indexed.edge_id).symm
  acyclic := owned_eq_composes h.indexed.composer ▸ h.acyclic

/-! ## What a sound graph passes -/

/-- An owner is live when every edge joins live entities. -/
theorem mem_entities_of_owned (hlive : ∀ (i : EdgeId) (e : Edge), g.edges[i]? = some e →
    e.source ∈ g.entities ∧ e.target ∈ g.entities) {owner part : EntityId}
    (h : g.Owned owner part) : owner ∈ g.entities := by
  obtain ⟨e, he, rfl⟩ := Option.map_eq_some_iff.mp h
  obtain ⟨i, -, he⟩ := Option.bind_eq_some_iff.mp he
  exact (hlive i e he).1

/-- The owners of a live entity of a sound graph end, within as many steps as there are live
entities above it. -/
theorem Sound.ownersCycle_eq_false (h : g.Sound) {start : EntityId} (limit : Nat) :
    ∀ {node}, node ∈ g.entities →
      (above g.Owned g.entities.keys.toFinset node).card ≤ limit →
      ReflTransGen g.Owned node start → g.ownersCycle start limit node = false := by
  have hkeys : ∀ {x}, x ∈ g.entities → x ∈ g.entities.keys.toFinset := fun hx => by
    rwa [List.mem_toFinset, Std.ExtTreeMap.mem_keys]
  induction limit with
  | zero =>
    intro node hnode hcard _
    -- A live node is above itself, and the limit allows for none.
    have hself : node ∈ above g.Owned g.entities.keys.toFinset node :=
      mem_above.mpr ⟨hkeys hnode, .refl⟩
    rw [Finset.card_eq_zero.mp (Nat.le_zero.mp hcard)] at hself
    cases hself
  | succ limit ih =>
    intro node hnode hcard hchain
    unfold ownersCycle
    cases howner : g.composerOf node with
    | none => rfl
    | some owner =>
      have hlt := card_above_lt h.acyclic (hkeys hnode) howner
      -- The start lies below the node, so that it cannot be its owner.
      have hne : owner ≠ start := by
        rintro rfl
        exact h.acyclic _ (TransGen.head' howner hchain)
      simp [hne, ih (mem_entities_of_owned h.live howner) (Nat.le_of_lt_succ (hlt.trans_le hcard))
        (hchain.head howner)]

/-- An entity of a sound graph has at most one composition, the one that the index names. -/
theorem Sound.map_compositionsTo (h : g.Sound) (x : EntityId) :
    ((compositionsTo g.edges.toList x).map fun ie => ie.2.id) = g.composer[x]?.toList := by
  cases hedges : compositionsTo g.edges.toList x with
  | nil =>
    cases hx : g.composer[x]? with
    | none => rfl
    | some i =>
      obtain ⟨j, e, he, hkind, ht, -⟩ := (h.composer x i).mp hx
      have hmem : (j, e) ∈ compositionsTo g.edges.toList x :=
        mem_compositionsTo.mpr ⟨he, hkind, ht⟩
      rw [hedges] at hmem
      cases hmem
  | cons first rest =>
    obtain ⟨he, hkind, ht⟩ := mem_compositionsTo.mp
      (hedges ▸ List.mem_cons_self : first ∈ compositionsTo g.edges.toList x)
    -- Another composition would be stored under the same number, and no number comes twice.
    have hrest : rest = [] := by
      refine List.eq_nil_iff_forall_not_mem.mpr fun other hother => ?_
      obtain ⟨he', hkind', ht'⟩ := mem_compositionsTo.mp
        (hedges ▸ List.mem_cons_of_mem _ hother : other ∈ compositionsTo g.edges.toList x)
      have hdistinct : (compositionsTo g.edges.toList x).Pairwise
          fun a b => ¬ compare a.1 b.1 = .eq :=
        Std.ExtTreeMap.distinct_keys_toList.filter _
      rw [hedges] at hdistinct
      refine (List.pairwise_cons.mp hdistinct).1 other hother ?_
      rw [h.unique _ _ _ _ he he' hkind hkind' (ht.trans ht'.symm)]
      exact Std.ReflCmp.compare_self
    rw [hrest, (h.composer x first.2.id).mpr ⟨first.1, first.2, he, hkind, ht, rfl⟩]
    rfl

/-- An inspection finds nothing in a sound graph. -/
theorem Sound.inconsistencies_eq_nil (h : g.Sound) : g.inconsistencies = [] := by
  have hlookup : ∀ x : EntityId, g.compositions[x]? = g.composer[x]?.map fun i => [i] := by
    intro x
    have hmap := h.map_compositionsTo x
    rw [getElem?_compositions, hmap]
    cases g.composer[x]? <;> rfl
  rw [inconsistencies_eq_nil_iff]
  refine ⟨h.live, ?_, ?_, ?_⟩
  · intro x ids hids
    rw [hlookup, Option.map_eq_some_iff] at hids
    obtain ⟨i, hi, rfl⟩ := hids
    exact ⟨Nat.le_refl 1, hi⟩
  · refine Ordered.size_eq_of_mem_iff fun x => ?_
    rw [Ordered.mem_iff_exists, Ordered.mem_iff_exists, hlookup]
    simp
  · intro x hx
    refine h.ownersCycle_eq_false _ hx ?_ .refl
    calc (above g.Owned g.entities.keys.toFinset x).card
        ≤ g.entities.keys.toFinset.card := card_above_le _ _ _
      _ ≤ g.entities.keys.length := List.toFinset_card_le _
      _ = g.entities.size := Std.ExtTreeMap.length_keys

/-! ## What an inspection that finds nothing has shown -/

/-- Where the tests by target find nothing, the index names for each entity the first composition
that a scan of all edges finds, and there is no second one. The index has the keys of the
compositions, and because it has as many keys as there are targets it has no others. -/
theorem composer_eq_head? (howners : ∀ (x : EntityId) (ids : List EdgeId),
      g.compositions[x]? = some ids → ids.length ≤ 1 ∧ g.composer[x]? = ids.head?)
    (hsize : g.composer.size = g.compositions.size) (x : EntityId) :
    (compositionsTo g.edges.toList x).length ≤ 1 ∧
      g.composer[x]? = ((compositionsTo g.edges.toList x).map fun ie => ie.2.id).head? := by
  have hkeys : ∀ y ∈ g.compositions, y ∈ g.composer := by
    intro y hy
    obtain ⟨ids, hids⟩ := (Ordered.mem_iff_exists _ _).mp hy
    have hhead := (howners y ids hids).2
    rw [getElem?_compositions] at hids
    split_ifs at hids with hnil
    obtain ⟨i, rest, hcons⟩ := List.exists_cons_of_ne_nil hnil
    obtain rfl := Option.some.inj hids
    rw [hcons, List.head?_cons] at hhead
    exact Ordered.mem_of_getElem? hhead
  by_cases hnil : ((compositionsTo g.edges.toList x).map fun ie => ie.2.id) = []
  · have hnone : g.compositions[x]? = none := by rw [getElem?_compositions, if_pos hnil]
    have hout : x ∉ g.composer := fun hx =>
      (getElem?_eq_none_iff _ _).mp hnone (Ordered.mem_of_size_eq hkeys hsize hx)
    rw [hnil, (getElem?_eq_none_iff _ _).mpr hout, List.map_eq_nil_iff.mp hnil]
    exact ⟨Nat.zero_le 1, rfl⟩
  · have h := howners x _ (by rw [getElem?_compositions, if_neg hnil])
    rwa [List.length_map] at h

/-- A walk to the owners from below its start is noticed, whatever its limit. -/
theorem ownersCycle_eq_true {start : EntityId} (limit : Nat) :
    ∀ {node}, TransGen g.Owned start node → g.ownersCycle start limit node = true := by
  induction limit with
  | zero =>
    intro node hchain
    obtain ⟨owner, -, howner⟩ := TransGen.tail'_iff.mp hchain
    have howner : g.composerOf node = some owner := howner
    unfold ownersCycle
    rw [howner]
    exact Bool.or_true _
  | succ limit ih =>
    intro node hchain
    obtain ⟨owner, hchain, howner⟩ := TransGen.tail'_iff.mp hchain
    have howner : g.composerOf node = some owner := howner
    unfold ownersCycle
    rw [howner, Bool.or_eq_true, beq_iff_eq]
    -- The owner is the start, or below it as well.
    exact (reflTransGen_iff_eq_or_transGen.mp hchain).imp id ih

/-- A graph in which an inspection finds nothing is sound. -/
theorem sound_of_inconsistencies_eq_nil (h : g.inconsistencies = []) : g.Sound := by
  obtain ⟨hlive, howners, hsize, hcycles⟩ := (inconsistencies_eq_nil_iff g).mp h
  have hscan := composer_eq_head? howners hsize
  -- In a list with at most one member all members are the same.
  have hsame : ∀ {x : EntityId} {a b : EdgeId × Edge}, a ∈ compositionsTo g.edges.toList x →
      b ∈ compositionsTo g.edges.toList x → a = b := by
    intro x a b ha hb
    have hlength := (hscan x).1
    cases hedges : compositionsTo g.edges.toList x with
    | nil => simp [hedges] at ha
    | cons first rest =>
      obtain rfl : rest = [] := List.eq_nil_of_length_eq_zero (by simp_all)
      rw [hedges, List.mem_singleton] at ha hb
      exact ha.trans hb.symm
  refine ⟨hlive, fun i j e f he hf hkind hkind' ht => ?_, fun part i => ?_, fun x hcycle => ?_⟩
  · have hsame : (i, e) = (j, f) := hsame (mem_compositionsTo.mpr ⟨he, hkind, ht⟩)
      (mem_compositionsTo.mpr ⟨hf, hkind', rfl⟩)
    exact congrArg Prod.fst hsame
  · rw [(hscan part).2]
    constructor
    · intro hhead
      obtain ⟨⟨j, e⟩, hmem, rfl⟩ := List.mem_map.mp (List.mem_of_head? hhead)
      obtain ⟨he, hkind, ht⟩ := mem_compositionsTo.mp hmem
      exact ⟨j, e, he, hkind, ht, rfl⟩
    · rintro ⟨j, e, he, hkind, ht, rfl⟩
      have hmem : (j, e) ∈ compositionsTo g.edges.toList part :=
        mem_compositionsTo.mpr ⟨he, hkind, ht⟩
      obtain ⟨first, rest, hcons⟩ := List.exists_cons_of_ne_nil (List.ne_nil_of_mem hmem)
      have hfirst : (j, e) = first := hsame hmem (hcons ▸ List.mem_cons_self)
      rw [hcons, ← hfirst]
      rfl
  · obtain ⟨part, howner, -⟩ := TransGen.head'_iff.mp hcycle
    have hnoticed := ownersCycle_eq_true g.entities.size hcycle
    rw [hcycles x (mem_entities_of_owned hlive howner)] at hnoticed
    exact Bool.false_ne_true hnoticed

/-- An inspection of a graph, whatever its indexes hold, finds nothing exactly when every edge joins
live entities, no entity has two compositions, the index of compositions names for each part its
composition and nothing else, and the owners that this leads to have no cycle. Where every edge is
stored under its own number, these owners are those of the compositions. -/
theorem inspection_eq_nil_iff (g : EntityGraph) :
    (g.inconsistencies = [] ↔
      (∀ (i : EdgeId) (e : Edge), g.edges[i]? = some e →
        e.source ∈ g.entities ∧ e.target ∈ g.entities) ∧
      (∀ (i j : EdgeId) (e f : Edge), g.edges[i]? = some e → g.edges[j]? = some f →
        e.kind = .composition → f.kind = .composition → e.target = f.target → i = j) ∧
      (∀ (part : EntityId) (i : EdgeId), g.composer[part]? = some i ↔
        ∃ (j : EdgeId) (e : Edge), g.edges[j]? = some e ∧ e.kind = .composition ∧
          e.target = part ∧ e.id = i) ∧
      Acyclic fun owner part => g.composerOf part = some owner) ∧
    ((∀ (i : EdgeId) (e : Edge), g.edges[i]? = some e → e.id = i) →
      (g.inconsistencies = [] ↔
        (∀ (i : EdgeId) (e : Edge), g.edges[i]? = some e →
          e.source ∈ g.entities ∧ e.target ∈ g.entities) ∧
        (∀ (i j : EdgeId) (e f : Edge), g.edges[i]? = some e → g.edges[j]? = some f →
          e.kind = .composition → f.kind = .composition → e.target = f.target → i = j) ∧
        (∀ (part : EntityId) (i : EdgeId), g.composer[part]? = some i ↔
          ∃ e : Edge, g.edges[i]? = some e ∧ e.kind = .composition ∧ e.target = part) ∧
        Acyclic g.Composes)) := by
  have hsound : g.inconsistencies = [] ↔ g.Sound :=
    ⟨sound_of_inconsistencies_eq_nil, Sound.inconsistencies_eq_nil⟩
  rw [hsound]
  refine ⟨⟨fun h => ⟨h.live, h.unique, h.composer, h.acyclic⟩,
    fun ⟨hlive, hunique, hindex, hacyclic⟩ => ⟨hlive, hunique, hindex, hacyclic⟩⟩,
    fun hown => ⟨fun h => ?_, fun ⟨hlive, hunique, hindex, hacyclic⟩ => ?_⟩⟩
  · have hindex : ComposerIndex g.composer g.edges :=
      fun part i => (h.composer part i).trans (exists_edge_id_iff hown)
    exact ⟨h.live, h.unique, hindex, owned_eq_composes hindex ▸ h.acyclic⟩
  · exact ⟨hlive, hunique, fun part i => (hindex part i).trans (exists_edge_id_iff hown).symm,
      (owned_eq_composes hindex).symm ▸ hacyclic⟩

/-- A car with a wheel. The index of compositions is in order, and the others are empty. -/
def carWithWheel : EntityGraph :=
  { registry := {}
    entities := .ofList [(⟨1⟩, ⟨⟨1⟩, "Car", ∅⟩), (⟨2⟩, ⟨⟨2⟩, "Wheel", ∅⟩)] compare
    edges := .ofList
      [(⟨1⟩, { source := ⟨1⟩, target := ⟨2⟩, kind := .composition, id := ⟨1⟩ })] compare
    composer := .ofList [(⟨2⟩, ⟨1⟩)] compare }

/-- An inspection finds nothing in the car, and so has shown that its compositions have no cycle. -/
theorem inspection_carWithWheel :
    (∀ (i : EdgeId) (e : Edge), carWithWheel.edges[i]? = some e → e.id = i) ∧
      carWithWheel.inconsistencies = [] ∧ Acyclic carWithWheel.Composes := by
  have hown : ∀ (i : EdgeId) (e : Edge), carWithWheel.edges[i]? = some e → e.id = i := by
    intro i e he
    have hmem := (Ordered.getElem?_ofList_eq_some_iff (by decide)).mp he
    obtain ⟨rfl, rfl⟩ := Prod.mk.inj (List.mem_singleton.mp hmem)
    rfl
  have hnone : carWithWheel.inconsistencies = [] := by decide +kernel
  exact ⟨hown, hnone, (((inspection_eq_nil_iff carWithWheel).2 hown).mp hnone).2.2.2⟩

/-! ## Graphs that requests lead to -/

/-- Behind every history of requests a graph is well-formed: entities and edges are stored under
their own numbers, edges join live entities, the indexes have the live entities as keys and hold
exactly the edges, an entity has at most one composition, and compositions have no cycle. So the
queries through the indexes answer as a scan of all edges does, and an inspection finds nothing. -/
theorem run_empty_consistent (registry : Registry) (history : List Request) :
    let g := (EntityGraph.empty registry).run history
    g.WellFormed ∧
      (∀ {i j : EdgeId} {e f : Edge}, g.edges[i]? = some e → g.edges[j]? = some f →
        e.kind = .composition → f.kind = .composition → e.target = f.target → i = j) ∧
      (∀ x, g.edgesFrom x = g.allEdges.filter fun e => e.source = x) ∧
      (∀ x, g.edgesTo x = g.allEdges.filter fun e => e.target = x) ∧
      (∀ x, g.composerOf x =
        (g.allEdges.find? fun e => e.kind = .composition ∧ e.target = x).map (·.source)) ∧
      g.inconsistencies = [] := by
  have h := wellFormed_run_empty registry history
  exact ⟨h, h.edge_eq_of_target_eq, h.edgesFrom_eq_filter, h.edgesTo_eq_filter,
    h.composerOf_eq_find?, h.sound.inconsistencies_eq_nil⟩

end ClassGraph.EntityGraph
