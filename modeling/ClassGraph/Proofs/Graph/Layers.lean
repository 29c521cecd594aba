import ClassGraph.Proofs.Graph.Invariant
import ClassGraph.Proofs.Graph.Yield

/-!
# The layers of a walk

The entities around a start lie in layers: a layer is read entity by entity, of each the edges from
the oldest on, and what they lead to and has not been met before is the next layer (`layers`). The
layers are the entities at the distances 0, 1, 2 and so on (`mem_layer_iff`).

A walk visits one layer after the other, each as it is listed: while a layer waits and no more than
it and the layers before it has been met, the walk yields this layer, and then the next one waits
(`Stands.exists_next`). `run_empty_reachable` puts this together with what a walk visits and what it
yields behind some steps.
-/

open Relation

namespace ClassGraph

namespace EntityGraph

variable {g : EntityGraph} {kinds : KindSet} {x y z : EntityId} {m n : Nat}

/-! ## Distances -/

/-- So many edges of the kinds, one behind the other, lead from `x` to an entity. -/
inductive Path (g : EntityGraph) (kinds : KindSet) (x : EntityId) : Nat → EntityId → Prop
  /-- No edge leads from `x` to itself. -/
  | here : Path g kinds x 0 x
  /-- One more edge leads on. -/
  | onward {n : Nat} {y z : EntityId} :
    Path g kinds x n y → g.Joins kinds y z → Path g kinds x (n + 1) z

/-- The shortest path to an entity has so many edges. -/
def AtDistance (g : EntityGraph) (kinds : KindSet) (x : EntityId) (n : Nat) (y : EntityId) : Prop :=
  g.Path kinds x n y ∧ ∀ m < n, ¬ g.Path kinds x m y

/-- A path of no edges ends where it begins. -/
theorem path_zero_iff : g.Path kinds x 0 y ↔ y = x := by
  constructor
  · rintro ⟨⟩
    rfl
  · rintro rfl
    exact .here

/-- A longer path is a path and one edge behind it. -/
theorem path_succ_iff : g.Path kinds x (n + 1) z ↔ ∃ y, g.Path kinds x n y ∧ g.Joins kinds y z := by
  constructor
  · rintro (_ | ⟨hpath, hjoins⟩)
    exact ⟨_, hpath, hjoins⟩
  · rintro ⟨y, hpath, hjoins⟩
    exact .onward hpath hjoins

/-- An entity has one distance at most. -/
theorem AtDistance.unique (hm : g.AtDistance kinds x m y) (hn : g.AtDistance kinds x n y) :
    m = n := by
  rcases Nat.lt_trichotomy m n with hlt | heq | hlt
  · exact absurd hm.1 (hn.2 m hlt)
  · exact heq
  · exact absurd hn.1 (hm.2 n hlt)

/-- The entities one farther are those to which an edge leads from an entity at the distance, and no
path of at most that many edges. -/
theorem atDistance_succ_iff : g.AtDistance kinds x (n + 1) z ↔
    (∃ y, g.AtDistance kinds x n y ∧ g.Joins kinds y z) ∧ ∀ m ≤ n, ¬ g.Path kinds x m z := by
  constructor
  · rintro ⟨hpath, hshortest⟩
    obtain ⟨y, hy, hjoins⟩ := path_succ_iff.mp hpath
    -- A shorter path to the last entity before would make a shorter path.
    have hdistance : g.AtDistance kinds x n y :=
      ⟨hy, fun m hm hm' => hshortest (m + 1) (by omega) (.onward hm' hjoins)⟩
    exact ⟨⟨y, hdistance, hjoins⟩, fun m hm => hshortest m (by omega)⟩
  · rintro ⟨⟨y, hdistance, hjoins⟩, hshortest⟩
    exact ⟨.onward hdistance.1 hjoins, fun m hm => hshortest m (by omega)⟩

/-! ## Layers -/

/-- The entities to which the edges of the kinds lead from `x`, in the order of these edges. -/
def targetsOf (g : EntityGraph) (kinds : KindSet) (x : EntityId) : List EntityId :=
  (g.allEdges.filter fun e => e.source = x ∧ kinds.contains e.kind).map (·.target)

/-- All entities of the layers up to the `n`-th, and the `n`-th itself. The start alone is the first
one. The next one is read off the entities of the last, one after the other, and off the edges of
each, by ascending numbers: it holds what is met there for the first time, in this order. -/
def layers (g : EntityGraph) (kinds : KindSet) (x : EntityId) : Nat → List EntityId × List EntityId
  | 0 => ([x], [x])
  | n + 1 =>
    let (met, last) := g.layers kinds x n
    let next := ((last.flatMap (g.targetsOf kinds)).filter fun y => y ∉ met).eraseDups
    (met ++ next, next)

/-- The entities of the layers up to the `n`-th. -/
def metWithin (g : EntityGraph) (kinds : KindSet) (x : EntityId) (n : Nat) : List EntityId :=
  (g.layers kinds x n).1

/-- The `n`-th layer. -/
def layer (g : EntityGraph) (kinds : KindSet) (x : EntityId) (n : Nat) : List EntityId :=
  (g.layers kinds x n).2

/-- A layer has the targets of the layer in front of it that were not met before. -/
theorem layer_succ (g : EntityGraph) (kinds : KindSet) (x : EntityId) (n : Nat) :
    g.layer kinds x (n + 1) = (((g.layer kinds x n).flatMap (g.targetsOf kinds)).filter fun y =>
      y ∉ g.metWithin kinds x n).eraseDups := rfl

/-- Within one more step, the entities of the next layer are met as well. -/
theorem metWithin_succ (g : EntityGraph) (kinds : KindSet) (x : EntityId) (n : Nat) :
    g.metWithin kinds x (n + 1) = g.metWithin kinds x n ++ g.layer kinds x (n + 1) := rfl

/-- The targets of an entity are those to which an edge of the kinds joins it. -/
theorem mem_targetsOf : y ∈ g.targetsOf kinds x ↔ g.Joins kinds x y := by
  simp only [targetsOf, Joins, List.mem_map, List.mem_filter, mem_allEdges, decide_eq_true_eq]
  constructor
  · rintro ⟨e, ⟨⟨i, hi⟩, hs, hkind⟩, ht⟩
    exact ⟨i, e, hi, hkind, hs, ht⟩
  · rintro ⟨i, e, hi, hkind, hs, ht⟩
    exact ⟨e, ⟨⟨i, hi⟩, hs, hkind⟩, ht⟩

/-- Up to a layer stand the entities to which a path of at most that many edges leads, and in it
those whose shortest path has that many. -/
theorem mem_layers_iff (g : EntityGraph) (kinds : KindSet) (x : EntityId) (n : Nat) :
    (∀ y, y ∈ g.metWithin kinds x n ↔ ∃ m ≤ n, g.Path kinds x m y) ∧
      ∀ y, y ∈ g.layer kinds x n ↔ g.AtDistance kinds x n y := by
  induction n with
  | zero =>
    have hstart : ∀ y, y ∈ [x] ↔ g.Path kinds x 0 y := fun y => by
      rw [List.mem_singleton, path_zero_iff]
    refine ⟨fun y => (hstart y).trans ?_, fun y => (hstart y).trans ?_⟩
    · simp only [Nat.le_zero, exists_eq_left]
    · exact ⟨fun hpath => ⟨hpath, fun m hm => absurd hm (Nat.not_lt_zero m)⟩, And.left⟩
  | succ n ih =>
    obtain ⟨hmet, hlast⟩ := ih
    have hnext : ∀ y, y ∈ g.layer kinds x (n + 1) ↔ g.AtDistance kinds x (n + 1) y := by
      intro y
      rw [layer_succ, List.mem_eraseDups, List.mem_filter, List.mem_flatMap, decide_eq_true_eq,
        hmet, atDistance_succ_iff]
      simp only [hlast, mem_targetsOf, not_exists, not_and]
    refine ⟨fun y => ?_, hnext⟩
    rw [metWithin_succ, List.mem_append, hmet, hnext]
    constructor
    · rintro (⟨m, hm, hpath⟩ | hdistance)
      · exact ⟨m, by omega, hpath⟩
      · exact ⟨n + 1, le_refl _, hdistance.1⟩
    · rintro ⟨m, hm, hpath⟩
      -- A path that is no shorter than allowed is a shortest one, or there is a shorter one.
      by_cases hshort : ∃ m ≤ n, g.Path kinds x m y
      · exact .inl hshort
      · have hlast : m = n + 1 := by
          by_contra hne
          exact hshort ⟨m, by omega, hpath⟩
        refine .inr ⟨hlast ▸ hpath, fun k hk hk' => hshort ⟨k, by omega, hk'⟩⟩

/-- A layer holds the entities at its distance. -/
theorem mem_layer_iff : y ∈ g.layer kinds x n ↔ g.AtDistance kinds x n y :=
  (mem_layers_iff g kinds x n).2 y

end EntityGraph

namespace Walk

open EntityGraph

variable {g : EntityGraph} {kinds : KindSet} {x : EntityId} {n : Nat} {w : Walk}

/-! ## Several expansions -/

/-- The target of an edge is new when its kind counts and it has not been seen. -/
theorem newTargets_cons (kinds : KindSet) (seen : EntitySet) (e : Edge) (edges : List Edge) :
    newTargets kinds seen (e :: edges) =
      if kinds.contains e.kind && !seen.contains e.target then
        e.target :: newTargets kinds (seen.insert e.target) edges
      else newTargets kinds seen edges := rfl

/-- The new targets of edges are the targets that were not met, each where it comes first. -/
theorem newTargets_eq (kinds : KindSet) (edges : List Edge) : ∀ seen : EntitySet,
    newTargets kinds seen edges = (((edges.filter fun e => kinds.contains e.kind).map
      (·.target)).filter fun y => y ∉ seen).eraseDups := by
  induction edges with
  | nil => exact fun _ => rfl
  | cons e edges ih =>
    intro seen
    rw [newTargets_cons, List.filter_cons]
    by_cases hkind : kinds.contains e.kind = true
    · rw [if_pos hkind, List.map_cons]
      by_cases hseen : e.target ∈ seen
      · have hc : seen.contains e.target = true := hseen
        rw [if_neg (by simp [hc]), ih, List.filter_cons_of_neg (by simpa using hseen)]
      · have hc : seen.contains e.target = false := Bool.eq_false_iff.mpr hseen
        rw [if_pos (by simp [hkind, hc]), ih, List.filter_cons_of_pos (by simpa using hseen),
          List.eraseDups_cons, List.filter_filter]
        -- What is not in the set with the target is not in the set and not the target.
        congr 2
        refine List.filter_congr fun y _ => ?_
        have hsame : e.target = y ↔ y = e.target := eq_comm
        rw [Bool.eq_iff_iff]
        simp [hsame]
    · rw [if_neg (by simp [hkind]), if_neg hkind, ih]

/-- What some edges and then others meet first: the latter start from what the former have met. -/
theorem newTargets_append (kinds : KindSet) (edges edges' : List Edge) : ∀ seen : EntitySet,
    newTargets kinds seen (edges ++ edges') = newTargets kinds seen edges ++
      newTargets kinds (seenWith seen (newTargets kinds seen edges)) edges' := by
  induction edges with
  | nil => exact fun _ => rfl
  | cons e edges ih =>
    intro seen
    rw [List.cons_append, newTargets_cons, newTargets_cons]
    by_cases hnew : (kinds.contains e.kind && !seen.contains e.target) = true
    · rw [if_pos hnew, if_pos hnew, ih]
      rfl
    · rw [if_neg hnew, if_neg hnew, ih]

/-- As many steps as there are entities in a front part of the queue take these, and put behind the
other part what the edges of all of them meet first. -/
theorem take_front (front : List EntityId) : ∀ (w : Walk) (back : List EntityId),
    w.queue = front ++ back →
      let new := newTargets w.kinds w.seen (front.flatMap w.graph.edgesFrom)
      w.take front.length =
        (front, { w with queue := back ++ new, seen := seenWith w.seen new }) := by
  induction front with
  | nil =>
    intro w back hqueue
    have hback : w.queue = back := hqueue
    simp [take, newTargets, seenWith, ← hback]
  | cons node front ih =>
    intro w back hqueue
    obtain ⟨graph, kinds, queue, seen⟩ := w
    have hqueue : queue = node :: (front ++ back) := hqueue
    -- The targets of the first come to the end of the queue, behind the other part.
    rw [List.length_cons, take_succ_cons hqueue, expand_eq]
    dsimp only
    rw [ih _ _ (List.append_assoc front back _), List.flatMap_cons, newTargets_append]
    simp only [seenWith, List.append_assoc, List.foldl_append]

/-! ## Layer by layer -/

/-- A layer waits, and what it and the layers before it hold has been met, and nothing else. -/
structure Stands (w : Walk) (g : EntityGraph) (kinds : KindSet) (x : EntityId) (n : Nat) :
    Prop where
  /-- The walk goes through the graph. -/
  graph : w.graph = g
  /-- It follows edges of the kinds. -/
  follows : w.kinds = kinds
  /-- The layer waits. -/
  queue : w.queue = g.layer kinds x n
  /-- The layers up to it have been met. -/
  seen : ∀ y, y ∈ w.seen ↔ y ∈ g.metWithin kinds x n

/-- The edges of some entities, as the index by sources finds them, lead to the targets of each. -/
theorem map_target_flatMap_edgesFrom (h : g.WellFormed) (kinds : KindSet) (front : List EntityId) :
    ((front.flatMap g.edgesFrom).filter fun e => kinds.contains e.kind).map (·.target) =
      front.flatMap (g.targetsOf kinds) := by
  rw [List.filter_flatMap, List.map_flatMap]
  refine List.flatMap_congr fun y _ => ?_
  unfold targetsOf
  rw [h.edgesFrom_eq_filter, List.filter_filter]
  congr 1
  refine List.filter_congr fun e _ => ?_
  rw [Bool.eq_iff_iff]
  simp [and_comm]

/-- A walk at which a layer waits yields this layer, and then the next one waits. -/
theorem Stands.exists_next (h : g.WellFormed) (hw : w.Stands g kinds x n) :
    ∃ w', w.take (g.layer kinds x n).length = (g.layer kinds x n, w') ∧
      w'.Stands g kinds x (n + 1) := by
  obtain ⟨rfl, rfl, hqueue, hseen⟩ := hw
  have htake := take_front (w.graph.layer w.kinds x n) w []
    (hqueue.trans (List.append_nil _).symm)
  have hnew : newTargets w.kinds w.seen ((w.graph.layer w.kinds x n).flatMap w.graph.edgesFrom) =
      w.graph.layer w.kinds x (n + 1) := by
    rw [newTargets_eq, map_target_flatMap_edgesFrom h, layer_succ]
    simp only [hseen]
  rw [hnew] at htake
  refine ⟨_, htake, rfl, rfl, List.nil_append _, fun y => ?_⟩
  rw [mem_seenWith, hseen, metWithin_succ, List.mem_append]

/-- A walk at which a layer waits yields this layer and the layers behind it, until one of them is
empty. -/
theorem Stands.exists_depth (h : g.WellFormed) (hw : w.Stands g kinds x n) :
    ∃ depth, w.rest = (List.range depth).flatMap fun k => g.layer kinds x (n + k) := by
  -- Induction on what is left: a layer that is not empty takes some of it.
  induction hlength : w.rest.length using Nat.strong_induction_on generalizing w n with
  | _ length ih =>
    by_cases hempty : g.layer kinds x n = []
    · have hdone : w.Yields [] := .done (next?_nil (hw.queue.trans hempty))
      exact ⟨0, yields_iff_rest.mp hdone⟩
    · obtain ⟨w', htake, hw'⟩ := hw.exists_next h
      have hrest : w.rest = g.layer kinds x n ++ w'.rest := by
        have hsplit := rest_eq_append w (g.layer kinds x n).length
        rwa [htake] at hsplit
      have hpos : 0 < (g.layer kinds x n).length := List.length_pos_iff.mpr hempty
      have hshorter : w'.rest.length < length := by
        rw [← hlength, hrest, List.length_append]
        omega
      obtain ⟨depth, hdepth⟩ := ih _ hshorter hw' rfl
      refine ⟨depth + 1, ?_⟩
      calc w.rest = g.layer kinds x n ++ w'.rest := hrest
        _ = g.layer kinds x (n + 0) ++
            (List.range depth).flatMap fun k => g.layer kinds x (n + (k + 1)) := by
          rw [hdepth]
          simp only [Nat.add_zero, Nat.add_assoc, Nat.add_comm 1]
        _ = (List.range (depth + 1)).flatMap fun k => g.layer kinds x (n + k) := by
          rw [List.range_succ_eq_map, List.flatMap_cons, List.flatMap_map]

/-- A walk that starts has the first layer behind its start before it. -/
theorem stands_start (h : g.WellFormed) (kinds : KindSet) (x : EntityId) :
    (start g kinds x).Stands g kinds x 1 := by
  have horigin : (origin g kinds x).Stands g kinds x 0 :=
    ⟨rfl, rfl, rfl, fun y => mem_singleton.trans List.mem_singleton.symm⟩
  obtain ⟨w, htake, hw⟩ := horigin.exists_next h
  have hstart : start g kinds x = w := congrArg Prod.snd htake
  exact hstart ▸ hw

end Walk

namespace EntityGraph

/-! ## The main result -/

/-- What a walk over edges of some kinds visits from an entity, and in which order. -/
structure BreadthFirst (g : EntityGraph) (kinds : KindSet) (x : EntityId)
    (visited : List EntityId) : Prop where
  /-- Nothing is visited twice. -/
  nodup : visited.Nodup
  /-- What is visited is live. -/
  live : ∀ y ∈ visited, y ∈ g.entities
  /-- Visited are the entities other than the start to which a path of one edge or more leads. -/
  mem_iff : ∀ y, y ∈ visited ↔ y ≠ x ∧ TransGen (g.Joins kinds) x y
  /-- Nearer entities are visited before farther ones. -/
  ascending : visited.Pairwise fun y z =>
    ∀ m n, g.AtDistance kinds x m y → g.AtDistance kinds x n z → m ≤ n
  /-- The entities of each distance are a layer. -/
  layer : ∀ n y, y ∈ g.layer kinds x n ↔ g.AtDistance kinds x n y
  /-- The layers behind the start are visited one after the other, each as it is listed. -/
  layers : ∃ depth, visited = (List.range depth).flatMap fun k => g.layer kinds x (1 + k)

/-- Layers that follow one another are farther and farther away. -/
theorem pairwise_flatMap_layer (g : EntityGraph) (kinds : KindSet) (x : EntityId) (depth : Nat) :
    ((List.range depth).flatMap fun k => g.layer kinds x (1 + k)).Pairwise fun y z =>
      ∀ m n, g.AtDistance kinds x m y → g.AtDistance kinds x n z → m ≤ n := by
  rw [List.pairwise_flatMap]
  constructor
  · -- Within a layer all are equally far.
    intro k _
    refine List.pairwise_of_forall_mem_list fun y hy z hz m n hm hn => ?_
    have hym : m = 1 + k := hm.unique (mem_layer_iff.mp hy)
    have hzn : n = 1 + k := hn.unique (mem_layer_iff.mp hz)
    omega
  · refine List.pairwise_lt_range.imp fun {k k'} hlt y hy z hz m n hm hn => ?_
    have hym : m = 1 + k := hm.unique (mem_layer_iff.mp hy)
    have hzn : n = 1 + k' := hn.unique (mem_layer_iff.mp hz)
    omega

/-- A walk from an entity of a well-formed graph is breadth first. -/
theorem WellFormed.breadthFirst {g : EntityGraph} (h : g.WellFormed) (kinds : KindSet)
    (x : EntityId) : g.BreadthFirst kinds x (Walk.start g kinds x).rest := by
  have hmem : ∀ y, y ∈ (Walk.start g kinds x).rest ↔ y ≠ x ∧ TransGen (g.Joins kinds) x y := by
    intro y
    rw [Walk.mem_rest_start_iff h, reflTransGen_iff_eq_or_transGen]
    exact and_congr_right fun hne => or_iff_right hne
  obtain ⟨depth, hdepth⟩ := (Walk.stands_start h kinds x).exists_depth h
  exact {
    nodup := Walk.nodup_rest_start g kinds x
    live := by
      intro y hy
      obtain ⟨_, -, i, e, he, -, -, rfl⟩ := TransGen.tail'_iff.mp ((hmem y).mp hy).2
      exact h.target_live he
    mem_iff := hmem
    ascending := hdepth ▸ pairwise_flatMap_layer g kinds x depth
    layer := fun _ _ => mem_layer_iff
    layers := ⟨depth, hdepth⟩ }

/-- Behind every history of requests, a walk over edges of any kinds can be started at every live
entity. It ends, and it is breadth first. Behind any number of steps, it yields what is then left of
its entities, and nothing else, and so does every copy of it made there. -/
theorem run_empty_reachable (registry : Registry) (history : List Request) (kinds : KindSet)
    {x : EntityId} (hx : x ∈ ((EntityGraph.empty registry).run history).entities) :
    let g := (EntityGraph.empty registry).run history
    ∃ walk visited, g.reachable x kinds = .ok walk ∧ walk.Yields visited ∧
      g.BreadthFirst kinds x visited ∧
      ∀ count nodes, (walk.take count).2.Yields nodes ↔ visited = (walk.take count).1 ++ nodes := by
  intro g
  have h : g.WellFormed := wellFormed_run_empty registry history
  exact ⟨Walk.start g kinds x, (Walk.start g kinds x).rest, reachable_of_mem hx kinds,
    Walk.yields_iff_rest.mpr rfl, h.breadthFirst kinds x,
    fun count nodes => Walk.yields_take_iff count⟩

/-- A registry with one type. -/
def stops : Registry :=
  let stop : TypeDef :=
    { tag := "Stop", base := none, isAbstract := false, operations := ∅, roles := ∅ }
  { types := .ofList [(stop.tag, stop)] }

/-- Six stops. Two lines lead from the first to the third and one to the second. Lines that came
later lead on from the second and the third to the fourth and the fifth, from the third to itself
and from the fourth back to the first. The sixth is a part of the first. -/
def lines : List Request :=
  let line (kind : RelationKind) (x y : Nat) : Request :=
    .link { source := ⟨x⟩, target := ⟨y⟩, kind }
  List.replicate 6 (.create "Stop" []) ++
    [line .association 1 3, line .dependency 1 2, line .association 1 3, line .association 3 3,
      line .association 2 5, line .dependency 3 4, line .association 3 5, line .association 4 1,
      line .composition 1 6]

/-- From the first stop the third comes first, to which the oldest line leads, and what it leads to
comes before what the second leads to. A walk that has taken the third goes on with the second. -/
theorem reachable_lines :
    let g := (EntityGraph.empty stops).run lines
    ⟨1⟩ ∈ g.entities ∧ ∃ walk visited, g.reachable ⟨1⟩ .usage = .ok walk ∧
      walk.Yields visited ∧ g.BreadthFirst .usage ⟨1⟩ visited ∧
      visited = [⟨3⟩, ⟨2⟩, ⟨4⟩, ⟨5⟩] ∧ (walk.take 1).2.Yields [⟨2⟩, ⟨4⟩, ⟨5⟩] := by
  intro g
  have hx : ⟨1⟩ ∈ g.entities := by decide +kernel
  obtain ⟨walk, visited, hreach, hyields, hbreadth, hsplit⟩ :=
    run_empty_reachable stops lines .usage hx
  have hwalk : walk = Walk.start g .usage ⟨1⟩ :=
    Except.ok.inj (hreach.symm.trans (reachable_of_mem hx .usage))
  have hvisited : visited = [⟨3⟩, ⟨2⟩, ⟨4⟩, ⟨5⟩] := by
    rw [← Walk.yields_iff_rest.mp hyields, hwalk]
    decide +kernel
  refine ⟨hx, walk, visited, hreach, hyields, hbreadth, hvisited, (hsplit 1 _).mpr ?_⟩
  rw [hvisited, hwalk]
  decide +kernel

end EntityGraph

end ClassGraph
