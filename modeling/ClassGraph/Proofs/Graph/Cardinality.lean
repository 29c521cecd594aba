import ClassGraph.Proofs.Graph.Admission
import ClassGraph.Proofs.Graph.Step

/-!
# Associations with a single target

An association that allows for one target only is the only one of its source and label. The check is
made once, for a new edge against the stored ones. It does not matter which of the two states the
multiplicity, and all other requests only take edges away, so that no two stored edges ever clash
(`Does.compatible`). `run_empty_cardinality` says so for every history of requests.
-/

namespace ClassGraph

/-- Which of two links clashes with the other makes no difference. -/
theorem Link.Clashes.symm {l l' : Link} (h : l.Clashes l') : l'.Clashes l := by
  obtain ⟨hkind, hkind', hsource, hlabel, hone⟩ := h
  exact ⟨hkind', hkind, hsource.symm, hlabel.symm, hone.symm⟩

namespace EntityGraph

variable {g g' : EntityGraph} {request : Request} {answer : Answer} {l : Link}

/-- No two stored edges clash. -/
def Compatible (g : EntityGraph) : Prop :=
  ∀ {i j : EdgeId} {e f : Edge}, g.edges[i]? = some e → g.edges[j]? = some f → i ≠ j →
    ¬ e.Clashes f.toLink

/-- A link that is not refused clashes with no stored edge. -/
theorem not_clashes_of_granted (hgranted : ∀ error, ¬ g.Refuses l error) {i : EdgeId} {e : Edge}
    (he : g.edges[i]? = some e) : ¬ e.Clashes l := by
  rintro ⟨hkind, hkind', hsource, hlabel, hone⟩
  have hclash : g.Clash l := ⟨i, e, he, hkind, hsource, hlabel, hone⟩
  have hs : l.source ∈ g.entities := by
    by_contra hs
    exact hgranted _ (.source hs)
  have ht : l.target ∈ g.entities := by
    by_contra ht
    exact hgranted _ (.target hs ht)
  exact hgranted _ (.rule hs ht (.cardinality hkind' hclash))

/-- A granted request keeps edges compatible. -/
theorem Does.compatible (h : g.Does request answer g') (hg : g.Compatible) : g'.Compatible := by
  intro i j e f he hf hij
  -- At most one of the two is the new edge.
  rcases h.edge he with he | ⟨hi, hgranted⟩
  · rcases h.edge hf with hf | ⟨-, hgranted⟩
    · exact hg he hf hij
    · exact not_clashes_of_granted hgranted he
  · rcases h.edge hf with hf | ⟨hj, -⟩
    · exact fun hclash => not_clashes_of_granted hgranted hf hclash.symm
    · exact absurd (hi.trans hj.symm) hij

/-- Behind every history of requests, two different associations of one source and one label, which
may both be without a label, both allow for more than one target. -/
theorem run_empty_cardinality (registry : Registry) (history : List Request) :
    let g := (EntityGraph.empty registry).run history
    ∀ {i j : EdgeId} {e f : Edge}, g.edges[i]? = some e → g.edges[j]? = some f → i ≠ j →
      e.kind = .association → f.kind = .association → e.source = f.source → e.label = f.label →
        e.cardinality ≠ some .one ∧ f.cardinality ≠ some .one := by
  intro g i j e f he hf hij hkind hkind' hsource hlabel
  have hempty : (EntityGraph.empty registry).Compatible := by
    intro i j e f he
    simp [EntityGraph.empty] at he
  have hcompatible : g.Compatible :=
    (wellFormed_empty registry).run_induction (fun _ hdoes => hdoes.compatible) hempty history
  have hclash : ¬ e.Clashes f.toLink := hcompatible he hf hij
  exact ⟨fun hone => hclash ⟨hkind, hkind', hsource, hlabel, .inl hone⟩,
    fun hone => hclash ⟨hkind, hkind', hsource, hlabel, .inr hone⟩⟩

/-- A registry with one type. -/
def drawers : Registry :=
  let drawer : TypeDef :=
    { tag := "Drawer", base := none, isAbstract := false, operations := ∅, roles := ∅ }
  { types := .ofList [(drawer.tag, drawer)] }

/-- The first drawer refers to a single other, and so cannot refer to a third. When that reference
is removed, it refers to both, and then no more to a single one. -/
def relabeling : List Request :=
  let refers (target : Nat) (cardinality : Cardinality) : Request :=
    .link { source := ⟨1⟩, target := ⟨target⟩, kind := .association, cardinality }
  [.create "Drawer" [], .create "Drawer" [], .create "Drawer" [],
    refers 2 .one, refers 3 .many, .unlink ⟨1⟩, refers 2 .many, refers 3 .many, refers 2 .one]

/-- The two references without a label that are left both allow for more than one target. -/
theorem cardinality_relabeling :
    let g := (EntityGraph.empty drawers).run relabeling
    g.allEdges.length = 2 ∧ ∃ e f, g.edges[(⟨2⟩ : EdgeId)]? = some e ∧
      g.edges[(⟨3⟩ : EdgeId)]? = some f ∧ e.label = none ∧ f.label = none ∧
        e.cardinality ≠ some .one ∧ f.cardinality ≠ some .one := by
  refine ⟨by decide, _, _, rfl, rfl, rfl, rfl, ?_⟩
  exact run_empty_cardinality drawers relabeling (i := ⟨2⟩) (j := ⟨3⟩) rfl rfl (by decide)
    rfl rfl rfl rfl

end EntityGraph

end ClassGraph
