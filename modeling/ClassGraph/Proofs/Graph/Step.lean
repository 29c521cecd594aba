import ClassGraph.Proofs.Graph.Deletion
import ClassGraph.Proofs.Graph.Linking

/-!
# What a granted request does

A granted request does one of four things, and `Does` says for each of them which entities, edges
and counters the graph behind it has (`WellFormed.does_of_apply`). Whichever it is, an entity or an
edge behind it was there before or is the new one, which was admitted (`Does.entity`, `Does.edge`).
What every granted request keeps, every history keeps (`WellFormed.run_induction`).
-/

namespace ClassGraph.EntityGraph

/-- What a granted creation returns and leaves behind. -/
structure Creates (g : EntityGraph) (entity : Entity) (g' : EntityGraph) : Prop where
  /-- The entity has the number that was next. -/
  nextEntity : entity.id = ⟨g.nextEntity⟩ ∧ g'.nextEntity = g.nextEntity + 1
  /-- The entities are those that there were, unchanged, and the new one under its number. -/
  entities : ∀ x : EntityId, g'.entities[x]? = if x = entity.id then some entity else g.entities[x]?
  /-- The edges stay as they are. -/
  edges : g'.edges = g.edges
  /-- The types stay as they are. -/
  registry : g'.registry = g.registry
  /-- The number of the next edge stays as it is. -/
  nextEdge : g'.nextEdge = g.nextEdge

/-- What a granted removal of an edge leaves behind. -/
structure Unlinks (g : EntityGraph) (e : Edge) (g' : EntityGraph) : Prop where
  /-- The edge was stored under its number. -/
  stored : g.edges[e.id]? = some e
  /-- The edges are those that there were, unchanged, without this one. -/
  edges : ∀ i : EdgeId, g'.edges[i]? = if i = e.id then none else g.edges[i]?
  /-- The entities stay as they are. -/
  entities : g'.entities = g.entities
  /-- The types stay as they are. -/
  registry : g'.registry = g.registry
  /-- The number of the next entity stays as it is. -/
  nextEntity : g'.nextEntity = g.nextEntity
  /-- The number of the next edge stays as it is. -/
  nextEdge : g'.nextEdge = g.nextEdge

/-- What a granted request may do, with its answer and the graph behind it. -/
inductive Does (g : EntityGraph) : Request → Answer → EntityGraph → Prop
  /-- It makes an entity with the roles that the registry grants. -/
  | create {roles : List String} {entity : Entity} {g' : EntityGraph} :
    g.registry.rolesOfInstance entity.typeTag roles = .ok entity.roles → g.Creates entity g' →
      Does g (.create entity.typeTag roles) (.created entity.id) g'
  /-- It stores a link that nothing stands against. -/
  | link {l : Link} {id : EdgeId} {g' : EntityGraph} :
    (∀ error, ¬ g.Refuses l error) → g.Links l id g' → Does g (.link l) (.linked id) g'
  /-- It takes an edge out. -/
  | unlink {e : Edge} {g' : EntityGraph} :
    g.Unlinks e g' → Does g (.unlink e.id) (.unlinked e) g'
  /-- It takes a live entity out with its parts. -/
  | delete {x : EntityId} {order : List EntityId} {g' : EntityGraph} :
    x ∈ g.entities → g.Deletes x order g' → Does g (.delete x) (.deleted order) g'

variable {g g' : EntityGraph} {request : Request} {answer : Answer}

/-- A granted creation makes an entity of the type. -/
theorem creates_of_create {tag : String} {roles : List String} {x : EntityId}
    (h : g.create tag roles = .ok (x, g')) :
    ∃ all, g.registry.rolesOfInstance tag roles = .ok all ∧
      g.Creates { id := x, typeTag := tag, roles := all } g' := by
  obtain ⟨all, hroles, hx, hg'⟩ := create_eq_ok_iff.mp h
  have hentities : ∀ y : EntityId, g'.entities[y]? =
      if y = x then some { id := x, typeTag := tag, roles := all } else g.entities[y]? := by
    intro y
    rw [hg', Ordered.getElem?_insert]
  exact ⟨all, hroles, {
    nextEntity := ⟨hx, by rw [hg']⟩
    entities := hentities
    edges := by rw [hg']
    registry := by rw [hg']
    nextEdge := by rw [hg'] }⟩

/-- A granted removal takes out the edge of the number. -/
theorem WellFormed.unlinks_of_unlink (h : g.WellFormed) {i : EdgeId} {e : Edge}
    (hu : g.unlink i = .ok (e, g')) : e.id = i ∧ g.Unlinks e g' := by
  unfold EntityGraph.unlink at hu
  cases he : g.edges[i]? with
  | none => simp [he] at hu
  | some e' =>
    simp only [he, Except.ok.injEq, Prod.mk.injEq] at hu
    obtain ⟨rfl, rfl⟩ := hu
    have hid : e'.id = i := h.indexed.edge_id he
    exact ⟨hid, {
      stored := hid ▸ he
      edges := fun j => Ordered.getElem?_erase ..
      entities := rfl
      registry := rfl
      nextEntity := rfl
      nextEdge := rfl }⟩

/-- A granted request to a well-formed graph does one of the four things. -/
theorem WellFormed.does_of_apply (h : g.WellFormed) (ha : g.apply request = .ok (answer, g')) :
    g.Does request answer g' := by
  cases request with
  | create tag roles =>
    obtain ⟨⟨x, g''⟩, hc, heq⟩ := Outcome.map_eq_ok_iff.mp ha
    obtain ⟨rfl, rfl⟩ := Prod.mk.inj heq
    obtain ⟨all, hroles, hcreates⟩ := creates_of_create hc
    exact Does.create hroles hcreates
  | link l =>
    obtain ⟨⟨i, g''⟩, hl, heq⟩ := Outcome.map_eq_ok_iff.mp ha
    obtain ⟨rfl, rfl⟩ := Prod.mk.inj heq
    have hgranted : ∀ error, ¬ g.Refuses l error := by
      intro error hrefuses
      have herror := (h.link_eq_error_iff l error).mpr hrefuses
      simp [hl] at herror
    exact .link hgranted (h.links_of_link hl)
  | unlink i =>
    obtain ⟨⟨e, g''⟩, hu, heq⟩ := Outcome.map_eq_ok_iff.mp ha
    obtain ⟨rfl, rfl⟩ := Prod.mk.inj heq
    obtain ⟨rfl, hunlinks⟩ := h.unlinks_of_unlink hu
    exact .unlink hunlinks
  | delete x =>
    obtain ⟨⟨order, g''⟩, hd, heq⟩ := Outcome.map_eq_ok_iff.mp ha
    obtain ⟨rfl, rfl⟩ := Prod.mk.inj heq
    obtain ⟨hx, -⟩ := delete_eq_ok_iff.mp hd
    obtain ⟨order', g', hd', hdeletes⟩ := h.exists_delete hx
    obtain ⟨rfl, rfl⟩ := Prod.mk.inj (Except.ok.inj (hd'.symm.trans hd))
    exact .delete hx hdeletes

/-! ## What was there before -/

/-- A granted request leaves the types. -/
theorem Does.registry (h : g.Does request answer g') : g'.registry = g.registry := by
  cases h with
  | create _ hcreates => exact hcreates.registry
  | link _ hlinks => exact hlinks.registry
  | unlink hunlinks => exact hunlinks.registry
  | delete _ hdeletes => exact hdeletes.registry

/-- An entity behind a granted request was there before, or it has the number that was next and the
roles that the registry grants to its type. -/
theorem Does.entity (h : g.Does request answer g') {x : EntityId} {entity : Entity}
    (hx : g'.entities[x]? = some entity) :
    g.entities[x]? = some entity ∨ x = ⟨g.nextEntity⟩ ∧
      ∃ roles, g.registry.rolesOfInstance entity.typeTag roles = .ok entity.roles := by
  cases h with
  | create hroles hcreates =>
    rw [hcreates.entities] at hx
    split_ifs at hx with hid
    · obtain rfl := Option.some.inj hx
      exact .inr ⟨hid.trans hcreates.nextEntity.1, _, hroles⟩
    · exact .inl hx
  | link _ hlinks => exact .inl (hlinks.entities ▸ hx)
  | unlink hunlinks => exact .inl (hunlinks.entities ▸ hx)
  | delete _ hdeletes =>
    rw [hdeletes.entities] at hx
    split_ifs at hx
    exact .inl hx

/-- An edge behind a granted request was there before, or it has the number that was next and
nothing stood against it. -/
theorem Does.edge (h : g.Does request answer g') {i : EdgeId} {e : Edge}
    (he : g'.edges[i]? = some e) :
    g.edges[i]? = some e ∨ i = ⟨g.nextEdge⟩ ∧ ∀ error, ¬ g.Refuses e.toLink error := by
  cases h with
  | create _ hcreates => exact .inl (hcreates.edges ▸ he)
  | link hgranted hlinks =>
    rw [hlinks.edges] at he
    split_ifs at he with hid
    · obtain rfl := Option.some.inj he
      exact .inr ⟨hid.trans hlinks.nextEdge.1, hgranted⟩
    · exact .inl he
  | unlink hunlinks =>
    rw [hunlinks.edges] at he
    split_ifs at he
    exact .inl he
  | delete _ hdeletes =>
    rw [hdeletes.edges] at he
    exact .inl (Option.filter_eq_some_iff.mp he).1

/-! ## Histories -/

/-- A granted request leaves the graph that goes with its answer. -/
theorem attempt_of_ok (ha : g.apply request = .ok (answer, g')) :
    g.attempt request = (.ok answer, g') := by
  unfold attempt
  rw [ha]

/-- A link that is refused leaves the graph as it was. -/
theorem attempt_link_of_error {l : Link} {error : GraphError} (hl : g.link l = .error error) :
    g.attempt (.link l) = (.error error, g) :=
  attempt_of_error (congrArg (Except.map _) hl)

/-- A link that is granted is answered with its number. -/
theorem attempt_link_of_ok {l : Link} {i : EdgeId} (hl : g.link l = .ok (i, g')) :
    g.attempt (.link l) = (.ok (.linked i), g') :=
  attempt_of_ok (congrArg (Except.map _) hl)

/-- What every granted request to a well-formed graph keeps, every history keeps. -/
theorem WellFormed.run_induction {motive : EntityGraph → Prop}
    (step : ∀ {g g' : EntityGraph} {request : Request} {answer : Answer},
      g.WellFormed → g.Does request answer g' → motive g → motive g')
    (h : g.WellFormed) (hg : motive g) (history : List Request) : motive (g.run history) := by
  induction history generalizing g with
  | nil => exact hg
  | cons request history ih =>
    have hnext : motive (g.attempt request).2 := by
      cases ha : g.apply request with
      | error error => rwa [attempt_of_error ha]
      | ok result =>
        obtain ⟨answer, g'⟩ := result
        rw [attempt_of_ok ha]
        exact step h (h.does_of_apply ha) hg
    exact ih (h.attempt request) hnext

end ClassGraph.EntityGraph
