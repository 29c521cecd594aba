import ClassGraph.Proofs.Graph.Inside
import ClassGraph.Proofs.Graph.Step

/-!
# Graphs that differ in their counters at most

The entities and the edges of a well-formed graph leave no choice in its indexes. So two graphs over
one registry are alike as soon as they have the same entities and the same edges
(`WellFormed.alike`), and equal when their counters agree as well (`Alike.eq`).

What a graph answers to links that are asked for one after the other depends on its live entities
and on what its edges say, and not on the numbers of these (`linkAnswers_congr`): alike graphs grant
and refuse the same links, also when the first of them give the new edges different numbers.
-/

open Relation

namespace ClassGraph.EntityGraph

/-- Two graphs hold the same entities and the same edges, with the same indexes of them, over the
same types. Only the numbers that they hand out next may differ. -/
structure Alike (g g' : EntityGraph) : Prop where
  /-- The types are the same. -/
  registry : g'.registry = g.registry
  /-- The entities are the same. -/
  entities : g'.entities = g.entities
  /-- The edges are the same. -/
  edges : g'.edges = g.edges
  /-- The index by sources is the same. -/
  outgoing : g'.outgoing = g.outgoing
  /-- The index by targets is the same. -/
  incoming : g'.incoming = g.incoming
  /-- The index of compositions is the same. -/
  composer : g'.composer = g.composer

variable {g g' : EntityGraph}

/-- Well-formed graphs over one registry with the same entities and edges are alike. -/
theorem WellFormed.alike (h : g.WellFormed) (h' : g'.WellFormed)
    (hregistry : g'.registry = g.registry) (hentities : g'.entities = g.entities)
    (hedges : g'.edges = g.edges) : g.Alike g' := by
  have hindexed : g'.Indexed (· ∈ g'.entities) := h'.indexed
  have houtgoing : IndexOf g'.outgoing (· ∈ g.entities) g.edges (·.source) := by
    rw [← hentities, ← hedges]
    exact hindexed.outgoing
  have hincoming : IndexOf g'.incoming (· ∈ g.entities) g.edges (·.target) := by
    rw [← hentities, ← hedges]
    exact hindexed.incoming
  have hcomposer : ComposerIndex g'.composer g.edges := by
    rw [← hedges]
    exact hindexed.composer
  exact {
    registry := hregistry
    entities := hentities
    edges := hedges
    outgoing := houtgoing.unique h.indexed.outgoing
    incoming := hincoming.unique h.indexed.incoming
    composer := hcomposer.unique h.indexed.composer }

/-- Alike graphs with the same counters are equal. -/
theorem Alike.eq (h : g.Alike g') (hentity : g'.nextEntity = g.nextEntity)
    (hedge : g'.nextEdge = g.nextEdge) : g' = g := by
  obtain ⟨hregistry, hentities, hedges, houtgoing, hincoming, hcomposer⟩ := h
  cases g
  cases g'
  simp_all

/-! ## Links that are asked for one after the other -/

/-- How links that are asked for one after the other are answered: each is granted, or refused for a
reason. -/
def linkAnswers (g : EntityGraph) : List Link → List (Except GraphError Unit)
  | [] => []
  | l :: links =>
    (g.attempt (.link l)).1.map (fun _ => ()) :: (g.attempt (.link l)).2.linkAnswers links

/-- A refused link is answered with the reason, and the others by the same graph. -/
theorem linkAnswers_cons_of_error {l : Link} {error : GraphError} (hl : g.link l = .error error)
    (links : List Link) : g.linkAnswers (l :: links) = .error error :: g.linkAnswers links := by
  rw [linkAnswers, attempt_link_of_error hl]
  rfl

/-- Behind a granted link, the others are answered by the graph with it. -/
theorem linkAnswers_cons_of_ok {l : Link} {i : EdgeId} (hl : g.link l = .ok (i, g'))
    (links : List Link) : g.linkAnswers (l :: links) = .ok () :: g'.linkAnswers links := by
  rw [linkAnswers, attempt_link_of_ok hl]
  rfl

/-- The check of a link depends on what the stored edges say, and not on their numbers. -/
theorem checkKind_eq_of_allLinks (h : g.WellFormed) (h' : g'.WellFormed)
    (hlinks : g'.allLinks = g.allLinks) (l : Link) : g'.checkKind l = g.checkKind l := by
  have hcomposes : g'.Composes = g.Composes := by
    funext owner part
    simp only [composes_iff_mem_allLinks, hlinks]
  refine checkKind_congr h' h (fun owner => ?_) ?_ fun hkind => ?_
  · rw [hcomposes]
  · rw [hcomposes]
  · rw [clash_iff_mem_allLinks hkind, clash_iff_mem_allLinks hkind, hlinks]

/-- Graphs with the same live entities whose edges say the same answer all links alike. -/
theorem linkAnswers_congr (links : List Link) :
    ∀ {g g' : EntityGraph}, g.WellFormed → g'.WellFormed → g'.entities = g.entities →
      g'.allLinks = g.allLinks → g'.linkAnswers links = g.linkAnswers links := by
  -- Induction on the links, for all such graphs: a granted link goes into both.
  induction links with
  | nil => exact fun _ _ _ _ => rfl
  | cons l links ih =>
    intro g g' h h' hentities hlinks
    have hrest : g'.linkAnswers links = g.linkAnswers links := ih h h' hentities hlinks
    by_cases hs : l.source ∈ g.entities
    · have hs' : l.source ∈ g'.entities := hentities ▸ hs
      by_cases ht : l.target ∈ g.entities
      · have ht' : l.target ∈ g'.entities := hentities ▸ ht
        have hsame : g'.checkKind l = g.checkKind l := checkKind_eq_of_allLinks h h' hlinks l
        cases hcheck : g.checkKind l with
        | error error =>
          have hl : g.link l = .error error := by
            rw [link_of_live hs ht, hcheck]
            rfl
          have hl' : g'.link l = .error error := by
            rw [link_of_live hs' ht', hsame, hcheck]
            rfl
          rw [linkAnswers_cons_of_error hl, linkAnswers_cons_of_error hl', hrest]
        | ok =>
          have hl : g.link l = .ok (g.insertEdge l) := link_eq_ok_iff.mpr ⟨hs, ht, hcheck, rfl⟩
          have hl' : g'.link l = .ok (g'.insertEdge l) :=
            link_eq_ok_iff.mpr ⟨hs', ht', hsame.trans hcheck, rfl⟩
          have hlinks' : (g'.insertEdge l).2.allLinks = (g.insertEdge l).2.allLinks := by
            rw [h'.allLinks_insertEdge, h.allLinks_insertEdge, hlinks]
          have hnext := ih (h.link hl) (h'.link hl') hentities hlinks'
          rw [linkAnswers_cons_of_ok hl, linkAnswers_cons_of_ok hl', hnext]
      · have ht' : l.target ∉ g'.entities := hentities ▸ ht
        rw [linkAnswers_cons_of_error (link_of_target_notMem hs ht),
          linkAnswers_cons_of_error (link_of_target_notMem hs' ht'), hrest]
    · have hs' : l.source ∉ g'.entities := hentities ▸ hs
      rw [linkAnswers_cons_of_error (link_of_source_notMem hs),
        linkAnswers_cons_of_error (link_of_source_notMem hs'), hrest]

/-- Alike graphs answer all links alike. -/
theorem Alike.linkAnswers_eq (halike : g.Alike g') (h : g.WellFormed) (h' : g'.WellFormed)
    (links : List Link) : g'.linkAnswers links = g.linkAnswers links := by
  have hlinks : g'.allLinks = g.allLinks := by
    unfold allLinks allEdges
    rw [halike.edges]
  exact linkAnswers_congr links h h' halike.entities hlinks

end ClassGraph.EntityGraph
