import ClassGraph.Proofs.Graph.Invariant

/-!
# When a link is granted

A link is refused when an end is not live or when it breaks the rule of its kind, for the first of
these reasons in this order (`Refuses`), and in all other cases stored under a new number and
nothing else changes (`Links`). `run_empty_link` says so for every graph that a history of requests
leads to.
-/

open Relation

namespace ClassGraph.EntityGraph

/-- The reason for which a graph refuses a link. -/
inductive Refuses (g : EntityGraph) (l : Link) : GraphError → Prop
  /-- The source is not live. -/
  | source : l.source ∉ g.entities → Refuses g l (.unknown (.entity l.source))
  /-- The source is live and the target is not. -/
  | target : l.source ∈ g.entities → l.target ∉ g.entities →
    Refuses g l (.unknown (.entity l.target))
  /-- Both ends are live, and a rule is broken. -/
  | rule {error : GraphError} : l.source ∈ g.entities → l.target ∈ g.entities →
    g.BreaksRule l error → Refuses g l error

/-- What a granted link returns and leaves behind. -/
structure Links (g : EntityGraph) (l : Link) (id : EdgeId) (g' : EntityGraph) : Prop where
  /-- The number is new. -/
  fresh : id ∉ g.edges
  /-- The edges are those that there were, unchanged, and the link under its number. -/
  edges : ∀ i : EdgeId, g'.edges[i]? = if i = id then some { toLink := l, id } else g.edges[i]?
  /-- The entities stay as they are. -/
  entities : g'.entities = g.entities
  /-- The types stay as they are. -/
  registry : g'.registry = g.registry
  /-- The number of the next entity stays as it is. -/
  nextEntity : g'.nextEntity = g.nextEntity
  /-- The edge has the number that was next. -/
  nextEdge : id = ⟨g.nextEdge⟩ ∧ g'.nextEdge = g.nextEdge + 1

namespace WellFormed

variable {g : EntityGraph}

/-- A link is refused for the first reason that there is. -/
theorem link_eq_error_iff (h : g.WellFormed) (l : Link) (error : GraphError) :
    g.link l = .error error ↔ g.Refuses l error := by
  -- The cases are the checks in their order: the source, the target, the rule of the kind.
  by_cases hs : l.source ∈ g.entities
  · by_cases ht : l.target ∈ g.entities
    · rw [link_of_live hs ht]
      constructor
      · intro herror
        cases hcheck : g.checkKind l with
        | error error' =>
          rw [hcheck] at herror
          obtain rfl := Except.error.inj herror
          exact .rule hs ht (h.checkKind_eq_error_iff.mp hcheck)
        | ok => simp [hcheck, Except.map] at herror
      · intro hrefuses
        cases hrefuses with
        | source hs' => exact absurd hs hs'
        | target _ ht' => exact absurd ht ht'
        | rule _ _ hbreaks =>
          rw [h.checkKind_eq_error_iff.mpr hbreaks]
          rfl
    · rw [link_of_target_notMem hs ht, Except.error.injEq]
      constructor
      · rintro rfl
        exact .target hs ht
      · intro hrefuses
        cases hrefuses with
        | source hs' => exact absurd hs hs'
        | target => rfl
        | rule _ ht' => exact absurd ht' ht
  · rw [link_of_source_notMem hs, Except.error.injEq]
    constructor
    · rintro rfl
      exact .source hs
    · intro hrefuses
      cases hrefuses with
      | source => rfl
      | target hs' => exact absurd hs' hs
      | rule hs' => exact absurd hs' hs

/-- A link that is granted is stored under a new number, and nothing else changes. -/
theorem links_insertEdge (h : g.WellFormed) (l : Link) :
    g.Links l (g.insertEdge l).1 (g.insertEdge l).2 where
  fresh := (getElem?_eq_none_iff _ _).mp h.getElem?_nextEdge
  edges := getElem?_edges_insertEdge g l
  entities := rfl
  registry := rfl
  nextEntity := rfl
  nextEdge := ⟨rfl, rfl⟩

/-- A link that is granted links the entities as it says. -/
theorem links_of_link (h : g.WellFormed) {l : Link} {i : EdgeId} {g' : EntityGraph}
    (hl : g.link l = .ok (i, g')) : g.Links l i g' := by
  obtain ⟨-, -, -, hresult⟩ := link_eq_ok_iff.mp hl
  obtain ⟨rfl, rfl⟩ := Prod.mk.inj hresult
  exact h.links_insertEdge l

end WellFormed

/-- A link is refused for the first reason that there is, and then nothing changes; when there is
none, it is granted. -/
theorem run_empty_link (registry : Registry) (history : List Request) (l : Link) :
    let g := (EntityGraph.empty registry).run history
    (∀ error, g.link l = .error error ↔ g.Refuses l error) ∧
    ((∀ error, ¬ g.Refuses l error) ↔ ∃ id g', g.link l = .ok (id, g') ∧ g.Links l id g') ∧
    ∀ error, (g.attempt (.link l)).1 = .error error → (g.attempt (.link l)).2 = g := by
  intro g
  have h : g.WellFormed := wellFormed_run_empty registry history
  refine ⟨h.link_eq_error_iff l, ?_, ?_⟩
  · simp only [← h.link_eq_error_iff]
    constructor
    · intro hgranted
      cases hl : g.link l with
      | error error => exact absurd hl (hgranted error)
      | ok result =>
        obtain ⟨-, -, -, rfl⟩ := link_eq_ok_iff.mp hl
        exact ⟨_, _, rfl, h.links_insertEdge l⟩
    · rintro ⟨id, g', hl, -⟩ error herror
      simp [hl] at herror
  · exact fun _ => snd_attempt_of_error

end ClassGraph.EntityGraph
