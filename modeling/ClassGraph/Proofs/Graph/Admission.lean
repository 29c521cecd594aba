import ClassGraph.Proofs.Graph.Invariant

/-!
# Links that are all granted

Links that are asked for one after the other are all granted exactly when they fit together and to
the graph, in whatever order they come: no part has two owners, compositions have no cycle, and no
two associations clash (`Admits`). `WellFormed.admits_cons` takes off the first link.
-/

open Relation

namespace ClassGraph

/-- Two compositions have the same part. -/
def Link.SharePart (l l' : Link) : Prop :=
  l.kind = .composition ∧ l'.kind = .composition ∧ l.target = l'.target

/-- Two associations have the same source and label, and one of them allows a single target. -/
def Link.Clashes (l l' : Link) : Prop :=
  l.kind = .association ∧ l'.kind = .association ∧ l.source = l'.source ∧ l.label = l'.label ∧
    (l.cardinality = some .one ∨ l'.cardinality = some .one)

namespace EntityGraph

/-- A composition from one entity to the other is stored or asked for. -/
def ComposesWith (g : EntityGraph) (links : List Link) (owner part : EntityId) : Prop :=
  g.Composes owner part ∨
    ∃ l ∈ links, l.kind = .composition ∧ l.source = owner ∧ l.target = part

/-- Links fit together and to a graph. -/
structure Admits (g : EntityGraph) (links : List Link) : Prop where
  /-- No part that is asked for has an owner. -/
  unowned : ∀ l ∈ links, l.kind = .composition → ∀ owner, ¬ g.Composes owner l.target
  /-- No part is asked for twice. -/
  unshared : links.Pairwise fun l l' => ¬ l.SharePart l'
  /-- No chain of compositions comes back to its start. -/
  acyclic : Acyclic (g.ComposesWith links)
  /-- No association clashes with a stored one. -/
  compatible : ∀ l ∈ links, l.kind = .association → ¬ g.Clash l
  /-- No two associations clash. -/
  unclashing : links.Pairwise fun l l' => ¬ l.Clashes l'

variable {g : EntityGraph} {l : Link} {links : List Link}

/-- A new edge adds its own clash to those that there were. -/
theorem clash_insertEdge (h : g.WellFormed) (l : Link) {l' : Link}
    (hkind : l'.kind = .association) :
    (g.insertEdge l).2.Clash l' ↔ g.Clash l' ∨ l.Clashes l' := by
  refine (exists_edge_insertEdge h l _).trans (or_congr_right ?_)
  simp only [Link.Clashes, hkind, true_and]

/-- The first link stands among the stored compositions. -/
theorem composesWith_cons (h : g.WellFormed) (l : Link) (links : List Link) :
    g.ComposesWith (l :: links) = (g.insertEdge l).2.ComposesWith links := by
  funext owner part
  unfold ComposesWith
  rw [composes_insertEdge h, or_assoc]
  simp only [List.mem_cons, exists_eq_or_imp]

/-- The first of links that fit passes its check. -/
theorem Admits.checkKind_eq_ok (hadmits : g.Admits (l :: links)) (h : g.WellFormed) :
    g.checkKind l = .ok () := by
  have hself : l ∈ l :: links := List.mem_cons_self
  refine h.checkKind_eq_ok_iff.mpr ⟨fun hkind => ⟨hadmits.unowned l hself hkind, fun hchain => ?_⟩,
    hadmits.compatible l hself⟩
  -- The composition would close the chain that leads from its target to its source.
  refine hadmits.acyclic l.source (TransGen.head' (.inr ⟨l, hself, hkind, rfl, rfl⟩) ?_)
  exact ReflTransGen.mono (fun _ _ => .inl) _ _ hchain

/-- The others fit to the graph with the first. -/
theorem Admits.tail (hadmits : g.Admits (l :: links)) (h : g.WellFormed) :
    (g.insertEdge l).2.Admits links where
  unowned := by
    intro l' hl' hkind owner hc
    rcases (composes_insertEdge h l owner l'.target).mp hc with hc | ⟨hkind', -, ht⟩
    · exact hadmits.unowned l' (List.mem_cons_of_mem _ hl') hkind owner hc
    · exact (List.pairwise_cons.mp hadmits.unshared).1 l' hl' ⟨hkind', hkind, ht⟩
  unshared := (List.pairwise_cons.mp hadmits.unshared).2
  acyclic := composesWith_cons h l links ▸ hadmits.acyclic
  compatible := by
    intro l' hl' hkind hc
    rcases (clash_insertEdge h l hkind).mp hc with hc | hc
    · exact hadmits.compatible l' (List.mem_cons_of_mem _ hl') hkind hc
    · exact (List.pairwise_cons.mp hadmits.unclashing).1 l' hl' hc
  unclashing := (List.pairwise_cons.mp hadmits.unclashing).2

/-- A link that passes its check fits together with links that fit to the graph with it. -/
theorem Admits.cons (hadmits : (g.insertEdge l).2.Admits links) (h : g.WellFormed)
    (hcheck : g.checkKind l = .ok ()) : g.Admits (l :: links) := by
  obtain ⟨hcomposition, hassociation⟩ := h.checkKind_eq_ok_iff.mp hcheck
  refine {
    unowned := List.forall_mem_cons.mpr ⟨fun hkind => (hcomposition hkind).1, ?_⟩
    unshared := List.pairwise_cons.mpr ⟨fun l' hl' hshare => ?_, hadmits.unshared⟩
    acyclic := (composesWith_cons h l links).symm ▸ hadmits.acyclic
    compatible := List.forall_mem_cons.mpr ⟨hassociation, ?_⟩
    unclashing := List.pairwise_cons.mpr ⟨fun l' hl' hclash => ?_, hadmits.unclashing⟩ }
  · intro l' hl' hkind owner hc
    exact hadmits.unowned l' hl' hkind owner ((composes_insertEdge h l _ _).mpr (.inl hc))
  · -- The first link would own the part that the other asks for.
    obtain ⟨hkind, hkind', ht⟩ := hshare
    exact hadmits.unowned l' hl' hkind' l.source
      ((composes_insertEdge h l _ _).mpr (.inr ⟨hkind, rfl, ht⟩))
  · intro l' hl' hkind hc
    exact hadmits.compatible l' hl' hkind ((clash_insertEdge h l hkind).mpr (.inl hc))
  · exact hadmits.compatible l' hl' hclash.2.1
      ((clash_insertEdge h l hclash.2.1).mpr (.inr hclash))

/-- Links fit exactly when the first passes its check and the others fit to the graph with it. -/
theorem WellFormed.admits_cons (h : g.WellFormed) :
    g.Admits (l :: links) ↔ g.checkKind l = .ok () ∧ (g.insertEdge l).2.Admits links :=
  ⟨fun hadmits => ⟨hadmits.checkKind_eq_ok h, hadmits.tail h⟩, fun ⟨hcheck, hadmits⟩ =>
    hadmits.cons h hcheck⟩

/-- A well-formed graph admits no links at all. -/
theorem WellFormed.admits_nil (h : g.WellFormed) : g.Admits [] where
  unowned := fun _ hl => absurd hl List.not_mem_nil
  unshared := .nil
  acyclic := h.acyclic.mono fun x y hc => by simpa [ComposesWith] using hc
  compatible := fun _ hl => absurd hl List.not_mem_nil
  unclashing := .nil

/-- A graph without edges admits links that fit together. -/
theorem admits_iff_of_edges_eq_empty (hedges : g.edges = ∅) :
    g.Admits links ↔ (links.Pairwise fun l l' => ¬ l.SharePart l') ∧
      Acyclic (fun owner part =>
        ∃ l ∈ links, l.kind = .composition ∧ l.source = owner ∧ l.target = part) ∧
      links.Pairwise fun l l' => ¬ l.Clashes l' := by
  have hcomposes : ∀ owner part, ¬ g.Composes owner part := by
    rintro owner part ⟨i, e, he, -⟩
    simp [hedges] at he
  have hclash : ∀ l, ¬ g.Clash l := by
    rintro l ⟨i, e, he, -⟩
    simp [hedges] at he
  have hwith : g.ComposesWith links = fun owner part =>
      ∃ l ∈ links, l.kind = .composition ∧ l.source = owner ∧ l.target = part := by
    funext owner part
    simp only [ComposesWith, hcomposes, false_or]
  rw [← hwith]
  constructor
  · exact fun h => ⟨h.unshared, h.acyclic, h.unclashing⟩
  · rintro ⟨hunshared, hacyclic, hunclashing⟩
    exact ⟨fun _ _ _ owner => hcomposes owner _, hunshared, hacyclic, fun l _ _ => hclash l,
      hunclashing⟩

end EntityGraph

end ClassGraph
