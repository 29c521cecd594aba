import ClassGraph.Proofs.Graph.Step

/-!
# Contests for a part

Several clients of a shared graph ask to become the owner of one part, in any order and among other
requests that make entities and edges. `Contends` says what may be asked, `Interleaves` in which
orders the calls of the clients can take the lock, and `SharedGraph.log` how each call is answered.

While no owner has been granted, the other requests take no entity away and compose nothing
(`Grows`), so that the first request for the part still breaks no rule (`Bids.granted`). From then
on its edge stands, and every later request for the part meets this one owner (`Held.refuses`). The
log has one grant in front and refusals behind it: `SharedGraph.contest_single_winner`.
-/

open Relation

namespace ClassGraph

/-! ## Calls of several clients -/

/-- The calls of several clients in an order in which they can take the lock: time and again some
client that has calls left makes its next one, until none has any left. -/
inductive Interleaves : List (List Request) → List Request → Prop
  /-- No client has calls left. -/
  | done {clients : List (List Request)} : (∀ calls ∈ clients, calls = []) → Interleaves clients []
  /-- One client makes its next call. -/
  | turn (before : List (List Request)) {after : List (List Request)} {request : Request}
    {calls history : List Request} : Interleaves (before ++ calls :: after) history →
      Interleaves (before ++ (request :: calls) :: after) (request :: history)

/-- Every call of every client is made, and no other. -/
theorem Interleaves.mem_iff {clients : List (List Request)} {history : List Request}
    (h : Interleaves clients history) (request : Request) :
    request ∈ history ↔ ∃ calls ∈ clients, request ∈ calls := by
  induction h with
  | done hnil =>
    refine iff_of_false List.not_mem_nil ?_
    rintro ⟨calls, hcalls, hrequest⟩
    rw [hnil calls hcalls] at hrequest
    exact absurd hrequest List.not_mem_nil
  | @turn before after first calls history _ ih =>
    -- The first call is one of its client, and the others are those of all clients without it.
    rw [List.mem_cons, ih]
    simp only [List.mem_append, List.mem_cons, or_and_right, exists_or, exists_eq_left]
    rw [or_left_comm, or_assoc]

namespace SharedGraph

/-- The calls to a shared graph with their answers, in the order in which they take the lock. -/
def log (s : SharedGraph) : List Request → List (Request × Except GraphError Answer)
  | [] => []
  | request :: history => (request, (s.attempt request).1) :: (s.attempt request).2.log history

/-- The shared graph behind a sequence of calls. -/
def run (s : SharedGraph) (history : List Request) : SharedGraph :=
  history.foldl (fun s request => (s.attempt request).2) s

/-- A graph that is shared and whose writers have not failed. -/
def ofGraph (g : EntityGraph) : SharedGraph := { graph := g }

/-- What a log says of a first request is what the graph answers to it. -/
theorem log_ofGraph_cons (g : EntityGraph) (request : Request) (history : List Request) :
    (ofGraph g).log (request :: history) =
      (request, (g.attempt request).1) :: (ofGraph (g.attempt request).2).log history := rfl

/-- A run goes on from the graph that a first request leaves. -/
theorem run_ofGraph_cons (g : EntityGraph) (request : Request) (history : List Request) :
    (ofGraph g).run (request :: history) = (ofGraph (g.attempt request).2).run history := rfl

end SharedGraph

/-- Whether a request asks for a composition of a part. -/
def Request.asksFor (part : EntityId) : Request → Bool
  | .link l => l.kind = .composition ∧ l.target = part
  | _ => false

/-- A request that takes nothing away and composes nothing. -/
inductive Request.StandsAside : Request → Prop
  /-- A new entity. -/
  | create (tag : String) (roles : List String) : StandsAside (.create tag roles)
  /-- An edge that is no composition. -/
  | link {l : Link} : l.kind ≠ .composition → StandsAside (.link l)

/-- A request that stands aside asks for no part. -/
theorem Request.StandsAside.asksFor_eq_false {request : Request} (h : request.StandsAside)
    (part : EntityId) : request.asksFor part = false := by
  cases h with
  | create => rfl
  | link hkind => exact decide_eq_false fun hasks => hkind hasks.1

namespace EntityGraph

/-! ## What may be asked -/

/-- A link by which a live entity that is neither the part nor below it would own the part. -/
structure Bids (g : EntityGraph) (part : EntityId) (l : Link) : Prop where
  /-- It is a composition. -/
  kind : l.kind = .composition
  /-- It leads to the part. -/
  target : l.target = part
  /-- Its source is live. -/
  live : l.source ∈ g.entities
  /-- Compositions do not lead from the part to its source. -/
  outside : ¬ ReflTransGen g.Composes part l.source

/-- What clients may ask for while they contend for a part. -/
inductive Contends (g : EntityGraph) (part : EntityId) : Request → Prop
  /-- To own the part. -/
  | bid {l : Link} : g.Bids part l → Contends g part (.link l)
  /-- Something that the part has no say in. -/
  | aside {request : Request} : request.StandsAside → Contends g part request

variable {g g' g'' : EntityGraph} {part : EntityId} {l : Link} {id : EdgeId} {request : Request}

/-- A link by which a part is to be owned asks for the part. -/
theorem Bids.asksFor (h : g.Bids part l) : (Request.link l).asksFor part = true :=
  decide_eq_true ⟨h.kind, h.target⟩

/-! ## Requests that stand aside -/

/-- A graph has everything that another one has, and composes the same. -/
structure Grows (g g' : EntityGraph) : Prop where
  /-- Live entities stay live. -/
  entities : ∀ x ∈ g.entities, x ∈ g'.entities
  /-- Stored edges stay stored. -/
  edges : ∀ {i : EdgeId} {e : Edge}, g.edges[i]? = some e → g'.edges[i]? = some e
  /-- What is composed of what stays as it is. -/
  composes : g'.Composes = g.Composes

/-- A graph has everything that it has. -/
theorem Grows.refl (g : EntityGraph) : g.Grows g := ⟨fun _ hx => hx, id, rfl⟩

/-- What grows in two steps has grown. -/
theorem Grows.trans (h : g.Grows g') (h' : g'.Grows g'') : g.Grows g'' where
  entities x hx := h'.entities x (h.entities x hx)
  edges he := h'.edges (h.edges he)
  composes := h'.composes.trans h.composes

/-- A graph grows by a new entity. -/
theorem Creates.grows {entity : Entity} (h : g.Creates entity g') : g.Grows g' where
  entities := by
    intro x hx
    rw [Ordered.mem_iff_exists] at hx ⊢
    obtain ⟨stored, hstored⟩ := hx
    rw [h.entities]
    split_ifs
    · exact ⟨entity, rfl⟩
    · exact ⟨stored, hstored⟩
  edges he := h.edges ▸ he
  composes := by
    unfold Composes
    rw [h.edges]

/-- A graph grows by a new edge that is no composition. -/
theorem WellFormed.grows_insertEdge (h : g.WellFormed) (hkind : l.kind ≠ .composition) :
    g.Grows (g.insertEdge l).2 where
  entities _ hx := hx
  edges := h.edges_insertEdge_of_edges l
  composes := by
    funext owner part
    rw [composes_insertEdge h]
    exact propext (or_iff_left fun hnew => hkind hnew.1)

/-- A graph grows by a request that stands aside, and stays as it is where this is refused. -/
theorem WellFormed.grows_attempt (h : g.WellFormed) (haside : request.StandsAside) :
    g.Grows (g.attempt request).2 := by
  cases ha : g.apply request with
  | error error =>
    rw [attempt_of_error ha]
    exact .refl g
  | ok result =>
    obtain ⟨answer, g'⟩ := result
    rw [attempt_of_ok ha]
    cases haside with
    | create tag roles =>
      obtain ⟨⟨x, g''⟩, hc, heq⟩ := Outcome.map_eq_ok_iff.mp ha
      obtain ⟨-, rfl⟩ := Prod.mk.inj heq
      obtain ⟨all, -, hcreates⟩ := creates_of_create hc
      exact hcreates.grows
    | link hkind =>
      obtain ⟨⟨i, g''⟩, hl, heq⟩ := Outcome.map_eq_ok_iff.mp ha
      obtain ⟨-, rfl⟩ := Prod.mk.inj heq
      obtain ⟨-, -, -, hresult⟩ := link_eq_ok_iff.mp hl
      obtain ⟨-, rfl⟩ := Prod.mk.inj hresult
      exact h.grows_insertEdge hkind

/-! ## Requests for the part -/

/-- The first request for a part without an owner is granted, however the graph has grown. -/
theorem Bids.granted (hbids : g.Bids part l) (hpart : part ∈ g.entities)
    (hfree : ∀ owner, ¬ g.Composes owner part) (hgrows : g.Grows g') (h' : g'.WellFormed) :
    g'.attempt (.link l) = (.ok (.linked ⟨g'.nextEdge⟩), (g'.insertEdge l).2) := by
  obtain ⟨hkind, rfl, hlive, houtside⟩ := hbids
  have hs : l.source ∈ g'.entities := hgrows.entities _ hlive
  have ht : l.target ∈ g'.entities := hgrows.entities _ hpart
  have hcheck : g'.checkKind l = .ok () := by
    rw [h'.checkKind_eq_ok_iff, hgrows.composes]
    refine ⟨fun _ => ⟨hfree, houtside⟩, fun hother => ?_⟩
    rw [hkind] at hother
    cases hother
  have hlink : g'.link l = .ok (g'.insertEdge l) := link_eq_ok_iff.mpr ⟨hs, ht, hcheck, rfl⟩
  exact attempt_of_ok (congrArg (Except.map _) hlink)

/-- A part has an owner by an edge, and all that was live when the contest began still is. -/
structure Held (g : EntityGraph) (part : EntityId) (l : Link) (id : EdgeId) (g' : EntityGraph) :
    Prop where
  /-- The graph is well-formed. -/
  wellFormed : g'.WellFormed
  /-- What was live still is. -/
  entities : ∀ x ∈ g.entities, x ∈ g'.entities
  /-- The edge is stored. -/
  edge : g'.edges[id]? = some { toLink := l, id }
  /-- It composes the part. -/
  part : l.kind = .composition ∧ l.target = part

/-- A part has an owner behind the request that was granted. -/
theorem Bids.held (hbids : g.Bids part l) (hfree : ∀ owner, ¬ g.Composes owner part)
    (hpart : part ∈ g.entities) (hgrows : g.Grows g') (h' : g'.WellFormed) :
    g.Held part l ⟨g'.nextEdge⟩ (g'.insertEdge l).2 where
  wellFormed := by
    have hattempt := hbids.granted hpart hfree hgrows h'
    have := h'.attempt (.link l)
    rwa [hattempt] at this
  entities := hgrows.entities
  edge := by rw [getElem?_edges_insertEdge, if_pos rfl]
  part := ⟨hbids.kind, hbids.target⟩

/-- While a part has an owner, every request for it is refused with this owner. -/
theorem Held.refuses (hheld : g.Held part l id g') {l' : Link} (hbids : g.Bids part l')
    (hpart : part ∈ g.entities) :
    g'.attempt (.link l') = (.error (.ownershipConflict part l.source), g') := by
  obtain ⟨h', hentities, hedge, hkind, rfl⟩ := hheld
  have hc : g'.Composes l.source l'.target := ⟨id, _, hedge, hkind, rfl, hbids.target.symm⟩
  have hrefuses : g'.Refuses l' (.ownershipConflict l'.target l.source) := by
    refine .rule (hentities _ hbids.live) ?_ (.ownershipConflict hbids.kind hc)
    rw [hbids.target]
    exact hentities _ hpart
  have hlink := (h'.link_eq_error_iff l' _).mpr hrefuses
  rw [hbids.target] at hlink
  exact attempt_of_error (congrArg (Except.map _) hlink)

/-- A request that stands aside leaves a part its owner. -/
theorem Held.attempt (hheld : g.Held part l id g') (haside : request.StandsAside) :
    g.Held part l id (g'.attempt request).2 where
  wellFormed := hheld.wellFormed.attempt request
  entities x hx :=
    (hheld.wellFormed.grows_attempt haside).entities x (hheld.entities x hx)
  edge := (hheld.wellFormed.grows_attempt haside).edges hheld.edge
  part := hheld.part

/-- Nothing else composes a part that has an owner. -/
theorem Held.composition_iff (hheld : g.Held part l id g') (i : EdgeId) (e : Edge) :
    (g'.edges[i]? = some e ∧ e.kind = .composition ∧ e.target = part) ↔
      i = id ∧ e = { toLink := l, id } := by
  obtain ⟨h', -, hedge, hkind, rfl⟩ := hheld
  constructor
  · rintro ⟨he, hek, ht⟩
    have hi : i = id := h'.edge_eq_of_target_eq he hedge hek hkind ht
    refine ⟨hi, ?_⟩
    rw [hi, hedge] at he
    exact (Option.some.inj he).symm
  · rintro ⟨rfl, rfl⟩
    exact ⟨hedge, hkind, rfl⟩

end EntityGraph

namespace SharedGraph

open EntityGraph

variable {g g' : EntityGraph} {part : EntityId} {l : Link} {id : EdgeId}

/-- While a part has an owner, a sequence of calls refuses all requests for the part and leaves it
this owner. -/
theorem log_of_held (hpart : part ∈ g.entities) (history : List Request) :
    ∀ {g'}, g.Held part l id g' → (∀ request ∈ history, g.Contends part request) →
      (∀ entry ∈ ((ofGraph g').log history).filter fun entry => entry.1.asksFor part,
        entry.2 = .error (.ownershipConflict part l.source)) ∧
      g.Held part l id ((ofGraph g').run history).graph := by
  induction history with
  | nil => exact fun hheld _ => ⟨fun entry hentry => absurd hentry List.not_mem_nil, hheld⟩
  | cons request history ih =>
    intro g' hheld hcontends
    obtain ⟨hfirst, hrest⟩ := List.forall_mem_cons.mp hcontends
    rw [log_ofGraph_cons, run_ofGraph_cons, List.filter_cons]
    cases hfirst with
    | bid hbids =>
      rw [if_pos hbids.asksFor, hheld.refuses hbids hpart]
      obtain ⟨hlater, hend⟩ := ih hheld hrest
      exact ⟨List.forall_mem_cons.mpr ⟨rfl, hlater⟩, hend⟩
    | aside haside =>
      rw [if_neg (by rw [haside.asksFor_eq_false]; exact Bool.false_ne_true)]
      exact ih (hheld.attempt haside) hrest

/-- In a sequence of calls one of which asks for a part without an owner, the first that does is
granted, and all later ones are refused with its owner. -/
theorem log_of_free (hpart : part ∈ g.entities) (hfree : ∀ owner, ¬ g.Composes owner part)
    (history : List Request) :
    ∀ {g'}, g'.WellFormed → g.Grows g' → (∀ request ∈ history, g.Contends part request) →
      (∃ request ∈ history, request.asksFor part = true) →
      ∃ l id later, g.Bids part l ∧
        ((ofGraph g').log history).filter (fun entry => entry.1.asksFor part) =
          (.link l, .ok (.linked id)) :: later ∧
        (∀ entry ∈ later, entry.2 = .error (.ownershipConflict part l.source)) ∧
        g.Held part l id ((ofGraph g').run history).graph := by
  induction history with
  | nil =>
    rintro g' - - - ⟨request, hrequest, -⟩
    exact absurd hrequest List.not_mem_nil
  | cons request history ih =>
    intro g' h' hgrows hcontends hasks
    obtain ⟨hfirst, hrest⟩ := List.forall_mem_cons.mp hcontends
    rw [log_ofGraph_cons, run_ofGraph_cons, List.filter_cons]
    cases hfirst with
    | @bid l hbids =>
      -- This is the first request for the part, and what follows is a contest that is decided.
      rw [if_pos hbids.asksFor, hbids.granted hpart hfree hgrows h']
      have hheld := hbids.held hfree hpart hgrows h'
      obtain ⟨hlater, hend⟩ := log_of_held hpart history hheld hrest
      exact ⟨l, ⟨g'.nextEdge⟩, _, hbids, rfl, hlater, hend⟩
    | aside haside =>
      have hno : request.asksFor part = false := haside.asksFor_eq_false part
      have hothers : ∃ request ∈ history, request.asksFor part = true := by
        obtain ⟨asking, hmem, hasking⟩ := hasks
        rcases List.mem_cons.mp hmem with rfl | hmem
        · rw [hno] at hasking
          cases hasking
        · exact ⟨asking, hmem, hasking⟩
      rw [if_neg (by rw [hno]; exact Bool.false_ne_true)]
      exact ih (h'.attempt request) (hgrows.trans (h'.grows_attempt haside)) hrest hothers

/-- When clients of a shared graph contend for a live part without an owner, and some of them ask
for it, then in every order in which their calls take the lock the first call that asks for the part
is granted, every later one is refused with the owner of the first, and behind all calls this is the
one composition that leads to the part. -/
theorem contest_single_winner (registry : Registry) (past : List Request) (part : EntityId)
    (clients : List (List Request)) :
    let g := (EntityGraph.empty registry).run past
    part ∈ g.entities → g.composerOf part = none →
    (∀ calls ∈ clients, ∀ request ∈ calls, g.Contends part request) →
    (∃ calls ∈ clients, ∃ request ∈ calls, request.asksFor part = true) →
    ∀ history, Interleaves clients history →
      ∃ l id later, g.Bids part l ∧
        ((ofGraph g).log history).filter (fun entry => entry.1.asksFor part) =
          (.link l, .ok (.linked id)) :: later ∧
        (∀ entry ∈ later, entry.2 = .error (.ownershipConflict part l.source)) ∧
        ∀ (i : EdgeId) (e : Edge),
          (((ofGraph g).run history).graph.edges[i]? = some e ∧ e.kind = .composition ∧
            e.target = part) ↔ i = id ∧ e = { toLink := l, id } := by
  intro g hpart howner hcontends hasks history hinterleaves
  have h : g.WellFormed := wellFormed_run_empty registry past
  have hfree : ∀ owner, ¬ g.Composes owner part := h.composerOf_eq_none_iff.mp howner
  have hcalls : ∀ request ∈ history, g.Contends part request := by
    intro request hrequest
    obtain ⟨calls, hmem, hrequest⟩ := (hinterleaves.mem_iff request).mp hrequest
    exact hcontends calls hmem request hrequest
  have hsome : ∃ request ∈ history, request.asksFor part = true := by
    obtain ⟨calls, hmem, request, hrequest, hrequested⟩ := hasks
    exact ⟨request, (hinterleaves.mem_iff request).mpr ⟨calls, hmem, hrequest⟩, hrequested⟩
  obtain ⟨l, id, later, hbids, hlog, hlater, hheld⟩ :=
    log_of_free hpart hfree history h (.refl g) hcalls hsome
  exact ⟨l, id, later, hbids, hlog, hlater, hheld.composition_iff⟩

/-- A registry with one type. -/
def boxes : Registry :=
  let box : TypeDef :=
    { tag := "Box", base := none, isAbstract := false, operations := ∅, roles := ∅ }
  { types := .ofList [(box.tag, box)] }

/-- Four boxes, the fourth of which is in the first. -/
def packed : EntityGraph :=
  (EntityGraph.empty boxes).run
    [.create "Box" [], .create "Box" [], .create "Box" [], .create "Box" [],
      .link { source := ⟨1⟩, target := ⟨4⟩, kind := .composition }]

/-- The request to put the first box into another one. -/
def putInto (owner : EntityId) : Request :=
  .link { source := owner, target := ⟨1⟩, kind := .composition }

/-- One client puts the first box into the second one and makes a new one, another one refers from
the second box to the first and then puts it into the third. -/
def packers : List (List Request) :=
  [[putInto ⟨2⟩, .create "Box" []],
    [.link { source := ⟨2⟩, target := ⟨1⟩, kind := .association }, putInto ⟨3⟩]]

/-- An order in which the second client overtakes the first. -/
def overtaking : List Request :=
  [.link { source := ⟨2⟩, target := ⟨1⟩, kind := .association }, putInto ⟨3⟩, putInto ⟨2⟩,
    .create "Box" []]

/-- To put the part into a live entity that it does not own is to contend for it. -/
theorem contends_putInto {owner : EntityId} (hlive : owner ∈ packed.entities)
    (howns : packed.owns ⟨1⟩ owner = false) : packed.Contends ⟨1⟩ (putInto owner) := by
  refine .bid ⟨rfl, rfl, hlive, fun hchain => ?_⟩
  have howns' := (wellFormed_run_empty boxes _).owns_iff.mpr hchain
  exact Bool.false_ne_true (howns.symm.trans howns')

/-- The third box has got the first one, and the request for the second is refused. -/
theorem contest_packers :
    Interleaves packers overtaking ∧ (∀ calls ∈ packers, ∀ request ∈ calls,
      packed.Contends ⟨1⟩ request) ∧
    ∃ l id later, packed.Bids ⟨1⟩ l ∧
      ((ofGraph packed).log overtaking).filter (fun entry => entry.1.asksFor ⟨1⟩) =
        (.link l, .ok (.linked id)) :: later ∧
      (∀ entry ∈ later, entry.2 = .error (.ownershipConflict ⟨1⟩ l.source)) ∧
      l.source = ⟨3⟩ ∧ later.length = 1 := by
  have hturns : Interleaves packers overtaking :=
    .turn [_] (.turn [_] (.turn [] (.turn [] (.done (by decide)))))
  have hcontends : ∀ calls ∈ packers, ∀ request ∈ calls, packed.Contends ⟨1⟩ request := by
    simp only [packers, List.forall_mem_cons, List.not_mem_nil, false_implies, implies_true,
      and_true]
    exact ⟨⟨contends_putInto (by decide) (by decide), .aside (.create ..)⟩,
      .aside (.link (by decide)), contends_putInto (by decide) (by decide)⟩
  obtain ⟨l, id, later, hbids, hlog, hlater, -⟩ := contest_single_winner boxes _ ⟨1⟩ packers
    (by decide) (by decide) hcontends (by decide) overtaking hturns
  have hasked : (((ofGraph packed).log overtaking).filter
      fun entry => entry.1.asksFor ⟨1⟩).map Prod.fst = [putInto ⟨3⟩, putInto ⟨2⟩] := by decide
  obtain ⟨hfirst, hothers⟩ :=
    List.cons.inj ((congrArg (List.map Prod.fst) hlog).symm.trans hasked)
  obtain rfl := Request.link.inj hfirst
  refine ⟨hturns, hcontends, _, id, later, hbids, hlog, hlater, rfl, ?_⟩
  rw [← List.length_map Prod.fst, hothers]
  rfl

end SharedGraph

end ClassGraph
