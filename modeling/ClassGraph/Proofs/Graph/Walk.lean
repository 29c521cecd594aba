import ClassGraph.Graph.Walk
import ClassGraph.Proofs.Graph.WellFormed

/-!
# What a walk visits

A walk visits, each once, the entities to which a chain of edges of its kinds leads from its start,
the start excepted (`mem_rest_start_iff`, `nodup_rest_start`). The proof follows the queue: an
expansion puts the new targets at its end (`expand_eq`), so that an entity that has been met and is
not waiting has no new targets left (`Walk.Sound`); when the queue is empty, nothing is missing.
Every step takes one off the number of entities that wait or can still be met (`remaining`).
-/

open Relation

namespace ClassGraph

namespace EntityGraph

/-- Some edge of the kinds, as the index by sources finds it, leads from `x` to `y`. -/
def Leads (g : EntityGraph) (kinds : KindSet) (x y : EntityId) : Prop :=
  ∃ e ∈ g.edgesFrom x, kinds.contains e.kind = true ∧ e.target = y

/-- Some edge of the kinds leads from `x` to `y`. -/
def Joins (g : EntityGraph) (kinds : KindSet) (x y : EntityId) : Prop :=
  ∃ (i : EdgeId) (e : Edge),
    g.edges[i]? = some e ∧ kinds.contains e.kind = true ∧ e.source = x ∧ e.target = y

/-- In a well-formed graph, the outgoing edges of an entity are those that join it to others. -/
theorem WellFormed.leads_iff_joins {g : EntityGraph} (h : g.WellFormed) (kinds : KindSet)
    (x y : EntityId) : g.Leads kinds x y ↔ g.Joins kinds x y := by
  constructor
  · rintro ⟨e, he, hkind, ht⟩
    obtain ⟨⟨i, hi⟩, hs⟩ := h.mem_edgesFrom.mp he
    exact ⟨i, e, hi, hkind, hs, ht⟩
  · rintro ⟨i, e, hi, hkind, hs, ht⟩
    exact ⟨e, h.mem_edgesFrom.mpr ⟨⟨i, hi⟩, hs⟩, hkind, ht⟩

/-- The edges that bind lifetimes are the compositions. -/
theorem joins_ownership_iff (g : EntityGraph) (x y : EntityId) :
    g.Joins .ownership x y ↔ g.Composes x y := by
  have hkind : ∀ kind : RelationKind,
      KindSet.ownership.contains kind = true ↔ kind = .composition := by
    intro kind
    cases kind <;> decide
  simp only [Joins, Composes, hkind]

/-- What composition alone joins is an owner and its part. -/
theorem joins_ownership_eq (g : EntityGraph) : g.Joins .ownership = g.Composes := by
  funext owner part
  exact propext (joins_ownership_iff g owner part)

/-- A walk can be started at every live entity. -/
theorem reachable_of_mem {g : EntityGraph} {x : EntityId} (hx : x ∈ g.entities) (kinds : KindSet) :
    g.reachable x kinds = .ok (Walk.start g kinds x) := by
  unfold reachable
  rw [requireLive_of_mem hx]
  rfl

end EntityGraph

namespace Walk

/-! ## One expansion -/

/-- The targets of those edges that are of the kinds and lead to an entity not met before, in
order. -/
def newTargets (kinds : KindSet) : EntitySet → List Edge → List EntityId
  | _, [] => []
  | seen, e :: edges =>
    if kinds.contains e.kind && !seen.contains e.target then
      e.target :: newTargets kinds (seen.insert e.target) edges
    else newTargets kinds seen edges

/-- A set with the members of a list added. -/
def seenWith (seen : EntitySet) (new : List EntityId) : EntitySet := new.foldl (·.insert ·) seen

/-- What has been seen with new entities is what was seen and the new ones. -/
theorem mem_seenWith {new : List EntityId} {x : EntityId} :
    ∀ {seen : EntitySet}, x ∈ seenWith seen new ↔ x ∈ seen ∨ x ∈ new := by
  induction new with
  | nil => simp [seenWith]
  | cons y new ih =>
    intro seen
    have hstep : seenWith seen (y :: new) = seenWith (seen.insert y) new := rfl
    rw [hstep, ih, Ordered.mem_set_insert, List.mem_cons]
    tauto

/-- The new targets are those of the edges of the kinds that were not seen. -/
theorem mem_newTargets {kinds : KindSet} {edges : List Edge} {x : EntityId} :
    ∀ {seen : EntitySet}, x ∈ newTargets kinds seen edges ↔
      x ∉ seen ∧ ∃ e ∈ edges, kinds.contains e.kind = true ∧ e.target = x := by
  induction edges with
  | nil => simp [newTargets]
  | cons e edges ih =>
    intro seen
    unfold newTargets
    by_cases hkind : kinds.contains e.kind = true
    · by_cases hseen : e.target ∈ seen
      · have hc : seen.contains e.target = true := hseen
        simp only [hkind, hc, Bool.not_true, Bool.and_false, Bool.false_eq_true, if_false, ih,
          List.mem_cons, exists_eq_or_imp, true_and]
        exact and_congr_right fun hx => ⟨.inr, fun h => h.resolve_left fun he => hx (he ▸ hseen)⟩
      · have hc : seen.contains e.target = false := Bool.eq_false_iff.mpr hseen
        simp only [hkind, hc, Bool.not_false, Bool.and_true, if_true, ih, Ordered.mem_set_insert,
          List.mem_cons, exists_eq_or_imp, true_and]
        by_cases hx : x = e.target
        · simp [hx, hseen]
        · simp [hx, Ne.symm hx]
    · simp [hkind, ih]

/-- No new target comes twice. -/
theorem nodup_newTargets (kinds : KindSet) (edges : List Edge) :
    ∀ seen : EntitySet, (newTargets kinds seen edges).Nodup := by
  induction edges with
  | nil => exact fun _ => List.nodup_nil
  | cons e edges ih =>
    intro seen
    unfold newTargets
    split_ifs
    · refine List.nodup_cons.mpr ⟨fun he => ?_, ih _⟩
      exact (mem_newTargets.mp he).1 (Std.ExtTreeSet.mem_insert_self)
    · exact ih seen

/-- An expansion puts the new targets at the end of the queue and among the entities that were
met. -/
theorem expand_eq (w : Walk) (node : EntityId) :
    w.expand node = { w with
      queue := w.queue ++ newTargets w.kinds w.seen (w.graph.edgesFrom node)
      seen := seenWith w.seen (newTargets w.kinds w.seen (w.graph.edgesFrom node)) } := by
  obtain ⟨g, kinds, queue, seen⟩ := w
  unfold expand
  dsimp only
  induction g.edgesFrom node generalizing queue seen with
  | nil => simp [newTargets, seenWith]
  | cons e edges ih =>
    rw [List.foldl_cons]
    unfold newTargets
    by_cases hnew : (kinds.contains e.kind && !seen.contains e.target) = true
    · simp only [if_pos hnew, ih, List.append_assoc]
      rfl
    · simp only [if_neg hnew, ih]

/-! ## The invariant and the measure -/

/-- Between two steps: what waits has been met, nothing waits twice, and what was met and does not
wait leads only to what was met. -/
structure Sound (w : Walk) : Prop where
  /-- What waits has been met. -/
  queue_seen : ∀ x ∈ w.queue, x ∈ w.seen
  /-- Nothing waits twice. -/
  queue_nodup : w.queue.Nodup
  /-- What was met and does not wait has no new targets. -/
  closed : ∀ x ∈ w.seen, x ∉ w.queue → ∀ y, w.graph.Leads w.kinds x y → y ∈ w.seen

/-- Taking a node off the queue and expanding it keeps a walk sound. -/
theorem Sound.next {w : Walk} (h : w.Sound) {node : EntityId} {queue : List EntityId}
    (hqueue : w.queue = node :: queue) : ({ w with queue }.expand node).Sound := by
  obtain ⟨g, kinds, _, seen⟩ := w
  obtain rfl := hqueue
  rw [expand_eq]
  have hnodup := List.nodup_cons.mp h.queue_nodup
  constructor
  · intro x hx
    rw [mem_seenWith]
    rcases List.mem_append.mp hx with hx | hx
    · exact .inl (h.queue_seen x (List.mem_cons_of_mem _ hx))
    · exact .inr hx
  · refine List.nodup_append.mpr ⟨hnodup.2, nodup_newTargets .., fun x hx y hy hxy => ?_⟩
    exact (mem_newTargets.mp (hxy ▸ hy)).1 (h.queue_seen x (List.mem_cons_of_mem _ hx))
  · intro x hx hwait y hy
    have hold : x ∈ seen :=
      (mem_seenWith.mp hx).resolve_right fun hx => hwait (List.mem_append_right _ hx)
    rw [mem_seenWith]
    -- The node itself no longer waits, and all its targets have been met by now.
    by_cases hnode : x = node
    · subst hnode
      by_cases hseen : y ∈ seen
      · exact .inl hseen
      · exact .inr (mem_newTargets.mpr ⟨hseen, hy⟩)
    · refine .inl (h.closed x hold (fun hx => ?_) y hy)
      exact hwait (List.mem_append_left _ ((List.mem_cons.mp hx).resolve_left hnode))

/-- The targets of edges that have not been met. -/
def unmet (w : Walk) : Finset EntityId :=
  (w.graph.edges.toList.map fun ie => ie.2.target).toFinset.filter fun x => x ∉ w.seen

/-- How many entities wait or can still be met. -/
def remaining (w : Walk) : Nat := w.queue.length + w.unmet.card

/-- No more entities remain than those that wait and as many as there are edges. -/
theorem remaining_le (w : Walk) : w.remaining ≤ w.queue.length + w.graph.edges.size := by
  refine Nat.add_le_add_left ?_ _
  calc w.unmet.card ≤ (w.graph.edges.toList.map fun ie => ie.2.target).toFinset.card :=
        Finset.card_filter_le _ _
    _ ≤ (w.graph.edges.toList.map fun ie => ie.2.target).length := List.toFinset_card_le _
    _ = w.graph.edges.size := by rw [List.length_map, Std.ExtTreeMap.length_toList]

/-- The index by sources names stored edges only. -/
theorem exists_of_mem_edgesFrom {g : EntityGraph} {x : EntityId} {e : Edge}
    (he : e ∈ g.edgesFrom x) : ∃ i : EdgeId, g.edges[i]? = some e := by
  obtain ⟨i, -, hi⟩ := List.mem_filterMap.mp he
  exact ⟨i, hi⟩

/-- What a set takes in is no longer outside it. -/
theorem card_filter_seenWith {targets : Finset EntityId} {seen : EntitySet} {new : List EntityId}
    (hnodup : new.Nodup) (hnew : ∀ x ∈ new, x ∉ seen ∧ x ∈ targets) :
    (targets.filter fun x => x ∉ seenWith seen new).card + new.length =
      (targets.filter fun x => x ∉ seen).card := by
  rw [← List.toFinset_card_of_nodup hnodup, ← Finset.card_union_of_disjoint]
  · congr 1
    ext x
    simp only [Finset.mem_union, Finset.mem_filter, List.mem_toFinset, mem_seenWith]
    have := hnew x
    tauto
  · rw [Finset.disjoint_left]
    intro x hx hnew
    exact (Finset.mem_filter.mp hx).2 (mem_seenWith.mpr (.inr (List.mem_toFinset.mp hnew)))

/-- A step takes one off what remains: new targets wait and are no longer unmet. -/
theorem remaining_next {w : Walk} {node : EntityId} {queue : List EntityId}
    (hqueue : w.queue = node :: queue) :
    ({ w with queue }.expand node).remaining + 1 = w.remaining := by
  obtain ⟨g, kinds, _, seen⟩ := w
  obtain rfl := hqueue
  rw [expand_eq]
  unfold remaining unmet
  dsimp only
  generalize hnew : newTargets kinds seen (g.edgesFrom node) = new
  have hnodup : new.Nodup := hnew ▸ nodup_newTargets ..
  have hmem : ∀ x ∈ new, x ∉ seen ∧ x ∈ (g.edges.toList.map fun ie => ie.2.target).toFinset := by
    intro x hx
    obtain ⟨hseen, e, he, -, rfl⟩ := mem_newTargets.mp (hnew ▸ hx)
    obtain ⟨i, hi⟩ := exists_of_mem_edgesFrom he
    refine ⟨hseen, List.mem_toFinset.mpr (List.mem_map.mpr ⟨(i, e), ?_, rfl⟩)⟩
    exact Std.ExtTreeMap.mem_toList_iff_getElem?_eq_some.mpr hi
  generalize (g.edges.toList.map fun ie => ie.2.target).toFinset = targets at hmem
  have hsplit := card_filter_seenWith hnodup hmem
  rw [List.length_append, List.length_cons]
  omega

/-! ## The whole walk -/

/-- What is behind a set that leads only into itself is in the set. -/
theorem mem_of_closed {g : EntityGraph} {kinds : KindSet} {seen : EntitySet}
    (hclosed : ∀ x ∈ seen, ∀ y, g.Leads kinds x y → y ∈ seen) {x y : EntityId} (hx : x ∈ seen)
    (hxy : ReflTransGen (g.Leads kinds) x y) : y ∈ seen := by
  induction hxy with
  | refl => exact hx
  | tail _ hstep ih => exact hclosed _ ih _ hstep

/-- The entity that waits first is the next one. -/
theorem next?_cons {w : Walk} {node : EntityId} {queue : List EntityId}
    (hqueue : w.queue = node :: queue) :
    w.next? = some (node, { w with queue }.expand node) := by
  unfold next?
  rw [hqueue]

/-- A walk without a queue has no next entity. -/
theorem next?_nil {w : Walk} (hqueue : w.queue = []) : w.next? = none := by
  unfold next?
  rw [hqueue]

/-- A step puts its entity in front of those that the others take. -/
theorem take_succ_cons {w : Walk} {node : EntityId} {queue : List EntityId}
    (hqueue : w.queue = node :: queue) (count : Nat) :
    w.take (count + 1) = (node :: (({ w with queue }.expand node).take count).1,
      (({ w with queue }.expand node).take count).2) := by
  simp only [take, next?_cons hqueue]

/-- A walk without a queue stays as it is. -/
theorem take_nil {w : Walk} (hqueue : w.queue = []) (count : Nat) : w.take count = ([], w) := by
  cases count with
  | zero => rfl
  | succ count => simp only [take, next?_nil hqueue]

/-- An entity that was not met and lies behind one that was. -/
def Behind (w : Walk) (x : EntityId) : Prop :=
  x ∉ w.seen ∧ ∃ y ∈ w.seen, ReflTransGen (w.graph.Leads w.kinds) y x

/-- When nothing waits, nothing is behind what was met. -/
theorem Sound.not_behind {w : Walk} (h : w.Sound) (hqueue : w.queue = []) (x : EntityId) :
    ¬ w.Behind x := by
  rintro ⟨hx, y, hy, hyx⟩
  exact hx (mem_of_closed (fun z hz => h.closed z hz (by simp [hqueue])) hy hyx)

/-- Expanding a node moves its new targets from behind what was met to the queue. -/
theorem Sound.mem_queue_or_behind_next {w : Walk} (h : w.Sound) {node : EntityId}
    {queue : List EntityId} (hqueue : w.queue = node :: queue) (x : EntityId) :
    x ∈ ({ w with queue }.expand node).queue ∨ ({ w with queue }.expand node).Behind x ↔
      x ∈ queue ∨ w.Behind x := by
  have hnode : node ∈ w.seen := h.queue_seen node (hqueue ▸ List.mem_cons_self)
  obtain ⟨g, kinds, _, seen⟩ := w
  rw [expand_eq]
  unfold Behind
  dsimp only at hnode ⊢
  rw [List.mem_append]
  simp only [mem_seenWith]
  constructor
  · rintro ((hx | hx) | ⟨hx, y, hy, hyx⟩)
    · exact .inl hx
    · obtain ⟨hseen, hlead⟩ := mem_newTargets.mp hx
      exact .inr ⟨hseen, node, hnode, .single hlead⟩
    · refine .inr ⟨fun hseen => hx (.inl hseen), ?_⟩
      -- A chain from a new target is one from the node, with a step more.
      rcases hy with hy | hy
      · exact ⟨y, hy, hyx⟩
      · exact ⟨node, hnode, .head (mem_newTargets.mp hy).2 hyx⟩
  · rintro (hx | ⟨hx, y, hy, hyx⟩)
    · exact .inl (.inl hx)
    · by_cases hnew : x ∈ newTargets kinds seen (g.edgesFrom node)
      · exact .inl (.inr hnew)
      · exact .inr ⟨fun h => h.elim hx hnew, y, .inl hy, hyx⟩

/-- A sound walk with enough steps visits what waits and what is behind what was met. -/
theorem mem_take_iff (count : Nat) :
    ∀ {w : Walk}, w.Sound → w.remaining ≤ count →
      ∀ x, x ∈ (w.take count).1 ↔ x ∈ w.queue ∨ w.Behind x := by
  -- Induction on the steps, for every walk: each step leaves another walk behind.
  induction count with
  | zero =>
    intro w h hle x
    have hqueue : w.queue = [] := List.length_eq_zero_iff.mp (by unfold remaining at hle; omega)
    simp [take_nil hqueue, hqueue, h.not_behind hqueue x]
  | succ count ih =>
    intro w h hle x
    cases hqueue : w.queue with
    | nil => simp [take_nil hqueue, h.not_behind hqueue x]
    | cons node queue =>
      have hle' : ({ w with queue }.expand node).remaining ≤ count := by
        have := remaining_next hqueue
        omega
      rw [take_succ_cons hqueue, List.mem_cons, ih (h.next hqueue) hle',
        h.mem_queue_or_behind_next hqueue, List.mem_cons, or_assoc]

/-- A sound walk visits nothing twice. -/
theorem Sound.nodup_take (count : Nat) : ∀ {w : Walk}, w.Sound → w.remaining ≤ count →
    (w.take count).1.Nodup := by
  induction count with
  | zero => exact fun _ _ => List.nodup_nil
  | succ count ih =>
    intro w h hle
    cases hqueue : w.queue with
    | nil =>
      rw [take_nil hqueue]
      exact List.nodup_nil
    | cons node queue =>
      have hle' : ({ w with queue }.expand node).remaining ≤ count := by
        have := remaining_next hqueue
        omega
      rw [take_succ_cons hqueue]
      refine List.nodup_cons.mpr ⟨fun hnode => ?_, ih (h.next hqueue) hle'⟩
      -- The node has been met, and it does not wait a second time.
      rw [mem_take_iff count (h.next hqueue) hle', h.mem_queue_or_behind_next hqueue] at hnode
      rcases hnode with hnode | hnode
      · exact (List.nodup_cons.mp (hqueue ▸ h.queue_nodup)).1 hnode
      · exact hnode.1 (h.queue_seen node (hqueue ▸ List.mem_cons_self))

/-! ## A walk from its start -/

/-- The walk in which the start itself still waits. -/
def origin (g : EntityGraph) (kinds : KindSet) (id : EntityId) : Walk :=
  { graph := g, kinds, queue := [id], seen := {id} }

/-- A walk starts as if its start had waited. -/
theorem start_eq (g : EntityGraph) (kinds : KindSet) (id : EntityId) :
    start g kinds id = { origin g kinds id with queue := [] }.expand id := rfl

/-- The set of one entity holds this entity only. -/
theorem mem_singleton {x id : EntityId} : x ∈ ({id} : EntitySet) ↔ x = id := by
  rw [Std.ExtTreeSet.singleton_eq_insert, Ordered.mem_set_insert]
  simp

/-- A walk that has not begun keeps to the invariant. -/
theorem sound_origin (g : EntityGraph) (kinds : KindSet) (id : EntityId) :
    (origin g kinds id).Sound := by
  constructor
  · exact fun x hx => mem_singleton.mpr (List.mem_singleton.mp hx)
  · exact List.nodup_singleton id
  · exact fun x hx hwait => absurd (List.mem_singleton.mpr (mem_singleton.mp hx)) hwait

/-- A walk from the first step on keeps to the invariant. -/
theorem sound_start (g : EntityGraph) (kinds : KindSet) (id : EntityId) :
    (start g kinds id).Sound := (sound_origin g kinds id).next rfl

/-- A walk visits the entities to which a chain of edges of its kinds leads from its start, the
start excepted. -/
theorem mem_rest_start_iff {g : EntityGraph} (h : g.WellFormed) (kinds : KindSet)
    (id x : EntityId) :
    x ∈ (start g kinds id).rest ↔ x ≠ id ∧ ReflTransGen (g.Joins kinds) id x := by
  have hleads : g.Leads kinds = g.Joins kinds := by
    funext x y
    exact propext (h.leads_iff_joins kinds x y)
  unfold rest
  rw [mem_take_iff _ (sound_start g kinds id) (remaining_le _), start_eq,
    (sound_origin g kinds id).mem_queue_or_behind_next rfl]
  unfold Behind origin
  simp only [List.not_mem_nil, false_or, mem_singleton, exists_eq_left, hleads, ne_eq]

/-- A walk visits nothing twice. -/
theorem nodup_rest_start (g : EntityGraph) (kinds : KindSet) (id : EntityId) :
    (start g kinds id).rest.Nodup :=
  (sound_start g kinds id).nodup_take _ (remaining_le _)

end Walk

end ClassGraph
