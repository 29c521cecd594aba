import ClassGraph.Proofs.Graph.Step

/-!
# Numbers of entities and edges

The entities that a history makes have the numbers 1, 2, 3 and so on, and so have its edges: a
refused request takes no number, and a removal gives none back (`WellFormed.counts_granted`). What
has been removed has a number below the counter, so that it does not come back (`Retired`,
`RetiredEdge`), and from then on a request that names it is refused (`Gone`, `EdgeGone`).
`run_empty_numbering` says so for every history of requests.
-/

namespace ClassGraph

namespace Answer

/-- The entity that was made. -/
def created? : Answer → Option EntityId
  | .created id => some id
  | _ => none

/-- The edge that was stored. -/
def linked? : Answer → Option EdgeId
  | .linked id => some id
  | _ => none

end Answer

namespace EntityGraph

variable {g g' : EntityGraph} {request : Request} {answer : Answer} {history : List Request}

/-! ## The answers of a history -/

/-- The answers to the granted requests of a history, oldest first. -/
def granted (g : EntityGraph) : List Request → List Answer
  | [] => []
  | request :: history =>
    (g.attempt request).1.toOption.toList ++ (g.attempt request).2.granted history

/-- The entities that a history makes, oldest first. -/
def created (g : EntityGraph) (history : List Request) : List EntityId :=
  (g.granted history).filterMap Answer.created?

/-- The edges that a history stores, oldest first. -/
def linked (g : EntityGraph) (history : List Request) : List EdgeId :=
  (g.granted history).filterMap Answer.linked?

/-- A history and a later one are one history. -/
theorem run_append (g : EntityGraph) (history later : List Request) :
    g.run (history ++ later) = (g.run history).run later :=
  List.foldl_append ..

/-- A refused request gives no answer. -/
theorem granted_cons_of_error {e : GraphError} (ha : g.apply request = .error e) :
    g.granted (request :: history) = g.granted history := by
  rw [granted, attempt_of_error ha]
  rfl

/-- The answer to a granted request stands before those to the others. -/
theorem granted_cons_of_ok (ha : g.apply request = .ok (answer, g')) :
    g.granted (request :: history) = answer :: g'.granted history := by
  rw [granted, attempt_of_ok ha]
  rfl

/-- A request that is refused changes nothing for the later ones. -/
theorem run_cons_of_error {e : GraphError} (ha : g.apply request = .error e) :
    g.run (request :: history) = g.run history :=
  congrArg (EntityGraph.run · history) (congrArg Prod.snd (attempt_of_error ha))

/-- A request that is granted leaves its graph to the later ones. -/
theorem run_cons_of_ok (ha : g.apply request = .ok (answer, g')) :
    g.run (request :: history) = g'.run history :=
  congrArg (EntityGraph.run · history) (congrArg Prod.snd (attempt_of_ok ha))

/-- What an answer begins and every granted request keeps, holds behind a history with this
answer. -/
theorem WellFormed.run_of_mem_granted {motive : EntityGraph → Prop}
    (begins : ∀ {g g' : EntityGraph} {request : Request},
      g.WellFormed → g.Does request answer g' → motive g')
    (keeps : ∀ {g g' : EntityGraph} {request : Request} {answer : Answer},
      g.WellFormed → g.Does request answer g' → motive g → motive g')
    (h : g.WellFormed) (hmem : answer ∈ g.granted history) : motive (g.run history) := by
  induction history generalizing g with
  | nil => exact absurd hmem List.not_mem_nil
  | cons request history ih =>
    cases ha : g.apply request with
    | error error =>
      rw [granted_cons_of_error ha] at hmem
      rw [run_cons_of_error ha]
      exact ih h hmem
    | ok result =>
      obtain ⟨first, g'⟩ := result
      have hdoes : g.Does request first g' := h.does_of_apply ha
      have h' : g'.WellFormed := h.apply ha
      rw [granted_cons_of_ok ha, List.mem_cons] at hmem
      rw [run_cons_of_ok ha]
      -- The answer is that to the first request, or one of the others.
      rcases hmem with rfl | hmem
      · exact h'.run_induction keeps (begins h hdoes) history
      · exact ih h' hmem

/-! ## Numbers in their order -/

/-- Where a granted request either hands out the number that a counter shows and moves it on by
one, or hands out none and leaves it, a history hands out one number after the other. -/
theorem WellFormed.counts_granted {α : Type} {next : EntityGraph → Nat} {handle : Nat → α}
    {handed? : Answer → Option α}
    (step : ∀ {g g' : EntityGraph} {request : Request} {answer : Answer},
      g.Does request answer g' →
        handed? answer = some (handle (next g)) ∧ next g' = next g + 1 ∨
          handed? answer = none ∧ next g' = next g)
    (h : g.WellFormed) (history : List Request) {k : Nat} {x : α}
    (hx : ((g.granted history).filterMap handed?)[k]? = some x) : x = handle (next g + k) := by
  induction history generalizing g k with
  | nil => simp [granted] at hx
  | cons request history ih =>
    cases ha : g.apply request with
    | error error =>
      rw [granted_cons_of_error ha] at hx
      exact ih h hx
    | ok result =>
      obtain ⟨answer, g'⟩ := result
      have h' : g'.WellFormed := h.apply ha
      rw [granted_cons_of_ok ha] at hx
      rcases step (h.does_of_apply ha) with ⟨hsome, hnext⟩ | ⟨hnone, hnext⟩
      · rw [List.filterMap_cons_some hsome] at hx
        cases k with
        | zero => exact (Option.some.inj hx).symm
        | succ k =>
          have hrest : x = handle (next g' + k) := ih h' hx
          have hsum : next g' + k = next g + (k + 1) := by omega
          rw [hrest, hsum]
      · rw [List.filterMap_cons_none hnone] at hx
        rw [← hnext]
        exact ih h' hx

/-- A request that is granted makes the entity with the next number, or none. -/
theorem Does.created? (h : g.Does request answer g') :
    answer.created? = some ⟨g.nextEntity⟩ ∧ g'.nextEntity = g.nextEntity + 1 ∨
      answer.created? = none ∧ g'.nextEntity = g.nextEntity := by
  cases h with
  | create _ hcreates =>
    exact .inl ⟨congrArg some hcreates.nextEntity.1, hcreates.nextEntity.2⟩
  | link _ hlinks => exact .inr ⟨rfl, hlinks.nextEntity⟩
  | unlink hunlinks => exact .inr ⟨rfl, hunlinks.nextEntity⟩
  | delete _ hdeletes => exact .inr ⟨rfl, hdeletes.nextEntity⟩

/-- A request that is granted stores the edge with the next number, or none. -/
theorem Does.linked? (h : g.Does request answer g') :
    answer.linked? = some ⟨g.nextEdge⟩ ∧ g'.nextEdge = g.nextEdge + 1 ∨
      answer.linked? = none ∧ g'.nextEdge = g.nextEdge := by
  cases h with
  | create _ hcreates => exact .inr ⟨rfl, hcreates.nextEdge⟩
  | link _ hlinks => exact .inl ⟨congrArg some hlinks.nextEdge.1, hlinks.nextEdge.2⟩
  | unlink hunlinks => exact .inr ⟨rfl, hunlinks.nextEdge⟩
  | delete _ hdeletes => exact .inr ⟨rfl, hdeletes.nextEdge⟩

/-! ## Entities that are gone -/

/-- An entity is not live, and its number has been handed out. -/
def Retired (g : EntityGraph) (x : EntityId) : Prop :=
  x ∉ g.entities ∧ x.number < g.nextEntity

/-- An entity is not live, no edge touches it, and what names it is refused. -/
structure Gone (g : EntityGraph) (x : EntityId) : Prop where
  /-- It is not live. -/
  notMem : x ∉ g.entities
  /-- No edge leaves it or arrives at it. -/
  untouched : ∀ {i : EdgeId} {e : Edge}, g.edges[i]? = some e → e.source ≠ x ∧ e.target ≠ x
  /-- A link from it is refused. -/
  link_source : ∀ l : Link, l.source = x →
    g.attempt (.link l) = (.error (.unknown (.entity x)), g)
  /-- A link to it is refused, for its source when that is not live either. -/
  link_target : ∀ l : Link, l.target = x →
    g.attempt (.link l) =
      (.error (.unknown (.entity (if l.source ∈ g.entities then x else l.source))), g)
  /-- Its deletion is refused. -/
  delete : g.attempt (.delete x) = (.error (.unknown (.entity x)), g)
  /-- A walk from it is refused. -/
  reachable : ∀ kinds : KindSet, g.reachable x kinds = .error (.unknown (.entity x))
  /-- A question for one of its roles is refused. -/
  satisfies : ∀ role : String, g.satisfies x role = .error (.unknown (.entity x))

/-- Numbers of entities that have been handed out stay so. -/
theorem Does.nextEntity_le (h : g.Does request answer g') : g.nextEntity ≤ g'.nextEntity := by
  rcases h.created? with ⟨-, hnext⟩ | ⟨-, hnext⟩
  · omega
  · omega

/-- Retired entities stay so: a new entity has a new number. -/
theorem Does.retired {x : EntityId} (h : g.Does request answer g') (hx : g.Retired x) :
    g'.Retired x := by
  obtain ⟨hdead, hlt⟩ := hx
  refine ⟨fun hlive => ?_, hlt.trans_le h.nextEntity_le⟩
  obtain ⟨entity, hentity⟩ := (Ordered.mem_iff_exists _ _).mp hlive
  rcases h.entity hentity with hold | ⟨rfl, -⟩
  · exact hdead (Ordered.mem_of_getElem? hold)
  · exact Nat.lt_irrefl _ hlt

/-- The entities that a deletion returns are retired. -/
theorem WellFormed.retired_of_deleted (h : g.WellFormed) {order : List EntityId}
    (hdoes : g.Does request (.deleted order) g') {x : EntityId} (hx : x ∈ order) :
    g'.Retired x := by
  cases hdoes with
  | delete hlive hdeletes =>
    refine ⟨?_, ?_⟩
    · rw [← getElem?_eq_none_iff, hdeletes.entities, if_pos hx]
    · rw [hdeletes.nextEntity]
      exact h.entity_lt (h.live_of_deletes hlive hdeletes x hx)

/-- An entity that is not live is refused by whatever names it. -/
theorem WellFormed.gone_of_notMem (h : g.WellFormed) {x : EntityId} (hx : x ∉ g.entities) :
    g.Gone x where
  notMem := hx
  untouched := fun he =>
    ⟨fun hs => hx (hs ▸ h.source_live he), fun ht => hx (ht ▸ h.target_live he)⟩
  link_source := by
    rintro l rfl
    exact attempt_of_error (congrArg (Except.map _) (link_of_source_notMem hx))
  link_target := by
    rintro l rfl
    by_cases hs : l.source ∈ g.entities
    · rw [if_pos hs]
      exact attempt_of_error (congrArg (Except.map _) (link_of_target_notMem hs hx))
    · rw [if_neg hs]
      exact attempt_of_error (congrArg (Except.map _) (link_of_source_notMem hs))
  delete := attempt_of_error (congrArg (Except.map _) (delete_of_notMem hx))
  reachable := by
    intro kinds
    unfold EntityGraph.reachable
    rw [requireLive_of_notMem hx]
    rfl
  satisfies := by
    intro role
    unfold EntityGraph.satisfies
    rw [(getElem?_eq_none_iff _ _).mpr hx]

/-! ## Edges that are gone -/

/-- An edge is not stored, and its number has been handed out. -/
def RetiredEdge (g : EntityGraph) (i : EdgeId) : Prop :=
  i ∉ g.edges ∧ i.number < g.nextEdge

/-- An edge is not stored, and its removal is refused. -/
structure EdgeGone (g : EntityGraph) (i : EdgeId) : Prop where
  /-- It is not stored. -/
  notMem : i ∉ g.edges
  /-- Its removal is refused. -/
  unlink : g.attempt (.unlink i) = (.error (.unknown (.edge i)), g)

/-- Numbers of edges that have been handed out stay so. -/
theorem Does.nextEdge_le (h : g.Does request answer g') : g.nextEdge ≤ g'.nextEdge := by
  rcases h.linked? with ⟨-, hnext⟩ | ⟨-, hnext⟩
  · omega
  · omega

/-- Retired edges stay so: a new edge has a new number. -/
theorem Does.retiredEdge {i : EdgeId} (h : g.Does request answer g') (hi : g.RetiredEdge i) :
    g'.RetiredEdge i := by
  obtain ⟨hdead, hlt⟩ := hi
  refine ⟨fun hstored => ?_, hlt.trans_le h.nextEdge_le⟩
  obtain ⟨e, he⟩ := (Ordered.mem_iff_exists _ _).mp hstored
  rcases h.edge he with hold | ⟨rfl, -⟩
  · exact hdead (Ordered.mem_of_getElem? hold)
  · exact Nat.lt_irrefl _ hlt

/-- The edge that a removal returns is retired. -/
theorem WellFormed.retiredEdge_of_unlinked (h : g.WellFormed) {e : Edge}
    (hdoes : g.Does request (.unlinked e) g') : g'.RetiredEdge e.id := by
  cases hdoes with
  | unlink hunlinks =>
    refine ⟨?_, ?_⟩
    · rw [← getElem?_eq_none_iff, hunlinks.edges, if_pos rfl]
    · rw [hunlinks.nextEdge]
      exact h.edge_lt (Ordered.mem_of_getElem? hunlinks.stored)

/-- The removal of an edge that is not stored is refused. -/
theorem edgeGone_of_notMem {i : EdgeId} (hi : i ∉ g.edges) : g.EdgeGone i where
  notMem := hi
  unlink := by
    have hrefused : g.unlink i = .error (.unknown (.edge i)) := by
      unfold EntityGraph.unlink
      rw [(getElem?_eq_none_iff _ _).mpr hi]
    exact attempt_of_error (congrArg (Except.map _) hrefused)

/-! ## The main result -/

/-- The entities and the edges of a history have the numbers from 1 on, in the order in which they
come; an entity that a deletion has returned, and an edge that has been removed or has gone with
an entity, are gone behind everything that follows. -/
theorem run_empty_numbering (registry : Registry) (history : List Request) :
    let start := EntityGraph.empty registry
    (∀ (k : Nat) (x : EntityId), (start.created history)[k]? = some x → x = ⟨k + 1⟩) ∧
    (∀ (k : Nat) (i : EdgeId), (start.linked history)[k]? = some i → i = ⟨k + 1⟩) ∧
    (∀ order, .deleted order ∈ start.granted history → ∀ x ∈ order, ∀ later,
      (start.run (history ++ later)).Gone x) ∧
    (∀ e, .unlinked e ∈ start.granted history → ∀ later,
      (start.run (history ++ later)).EdgeGone e.id) ∧
    ∀ (since : List Request) (i : EdgeId), i ∈ (start.run history).edges →
      i ∉ (start.run (history ++ since)).edges → ∀ later,
        (start.run (history ++ since ++ later)).EdgeGone i := by
  intro start
  have h : start.WellFormed := wellFormed_empty registry
  refine ⟨fun k x hx => ?_, fun k i hi => ?_, fun order horder x hx later => ?_,
    fun e he later => ?_, fun since i hstored hlost later => ?_⟩
  · have hnumber : x = ⟨1 + k⟩ := h.counts_granted Does.created? history hx
    rw [hnumber, Nat.add_comm]
  · have hnumber : i = ⟨1 + k⟩ := h.counts_granted Does.linked? history hi
    rw [hnumber, Nat.add_comm]
  · have hretired : (start.run history).Retired x :=
      h.run_of_mem_granted (fun hg hdoes => hg.retired_of_deleted hdoes hx)
        (fun _ hdoes => hdoes.retired) horder
    have hlater : ((start.run history).run later).Retired x :=
      (h.run history).run_induction (fun _ hdoes => hdoes.retired) hretired later
    rw [run_append]
    exact ((h.run history).run later).gone_of_notMem hlater.1
  · have hretired : (start.run history).RetiredEdge e.id :=
      h.run_of_mem_granted (fun hg hdoes => hg.retiredEdge_of_unlinked hdoes)
        (fun _ hdoes => hdoes.retiredEdge) he
    have hlater : ((start.run history).run later).RetiredEdge e.id :=
      (h.run history).run_induction (fun _ hdoes => hdoes.retiredEdge) hretired later
    rw [run_append]
    exact edgeGone_of_notMem hlater.1
  · -- While it was stored, its number had been handed out, and the counter has not gone back.
    have hsince : i.number < (start.run (history ++ since)).nextEdge := by
      rw [run_append]
      exact (h.run history).run_induction (motive := fun g => i.number < g.nextEdge)
        (fun _ hdoes hlt => hlt.trans_le hdoes.nextEdge_le) ((h.run history).edge_lt hstored) since
    have hlater : ((start.run (history ++ since)).run later).RetiredEdge i :=
      (h.run _).run_induction (fun _ hdoes => hdoes.retiredEdge) ⟨hlost, hsince⟩ later
    rw [run_append]
    exact edgeGone_of_notMem hlater.1

/-- A registry with one type. -/
def items : Registry :=
  let item : TypeDef :=
    { tag := "Item", base := none, isAbstract := false, operations := ∅, roles := ∅ }
  { types := .ofList [(item.tag, item)] }

/-- The first item owns the second, and the third refers to the second. Then the first is deleted,
and one more is made. -/
def replacement : List Request :=
  [.create "Item" [], .create "Item" [], .create "Box" [], .create "Item" [],
    .link { source := ⟨1⟩, target := ⟨2⟩, kind := .composition },
    .link { source := ⟨3⟩, target := ⟨2⟩, kind := .association },
    .delete ⟨1⟩, .create "Item" []]

/-- The last item is the fourth, and the second is gone, with the edge to it. -/
theorem gone_replacement :
    (EntityGraph.empty items).created replacement = [⟨1⟩, ⟨2⟩, ⟨3⟩, ⟨4⟩] ∧
      ∀ later, ((EntityGraph.empty items).run (replacement ++ later)).Gone ⟨2⟩ ∧
        ((EntityGraph.empty items).run (replacement ++ later)).EdgeGone ⟨2⟩ := by
  obtain ⟨-, -, hentity, -, -⟩ := run_empty_numbering items replacement
  obtain ⟨-, -, -, -, hedge⟩ := run_empty_numbering items (replacement.take 6)
  refine ⟨by decide, fun later => ⟨?_, ?_⟩⟩
  · exact hentity [⟨2⟩, ⟨1⟩] (by decide) ⟨2⟩ (by decide) later
  · exact hedge (replacement.drop 6) ⟨2⟩ (by decide) (by decide) later

end EntityGraph

end ClassGraph
