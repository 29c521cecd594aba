import ClassGraph.Graph.Mutation
import ClassGraph.Proofs.Graph.Ownership

/-!
# The rules that a new edge can break

A composition must not give its target a second owner, and must not close a chain of compositions.
An association must not stand beside one of the same source and label when one of the two allows a
single target. `BreaksRule` says this of the stored edges; in a well-formed graph the check of a new
edge, which looks into the indexes and walks to the owners, decides it
(`WellFormed.checkKind_eq_error_iff`, `WellFormed.checkKind_eq_ok_iff`).
-/

open Relation

namespace ClassGraph.EntityGraph

/-- A stored association of the source and label of a link, where one of the two allows a single
target. -/
def Clash (g : EntityGraph) (l : Link) : Prop :=
  ∃ (i : EdgeId) (e : Edge), g.edges[i]? = some e ∧ e.kind = .association ∧
    e.source = l.source ∧ e.label = l.label ∧
    (e.cardinality = some .one ∨ l.cardinality = some .one)

/-- The rule that a link breaks, as the refusal that names it. -/
inductive BreaksRule (g : EntityGraph) (l : Link) : GraphError → Prop
  /-- The target of a composition has an owner. -/
  | ownershipConflict {owner : EntityId} : l.kind = .composition → g.Composes owner l.target →
    BreaksRule g l (.ownershipConflict l.target owner)
  /-- The target of a composition has no owner, and is the source or leads to it over
  compositions. -/
  | cycle : l.kind = .composition → (∀ owner, ¬ g.Composes owner l.target) →
    ReflTransGen g.Composes l.target l.source → BreaksRule g l (.cycle l.source l.target)
  /-- An association clashes with a stored one. -/
  | cardinality : l.kind = .association → g.Clash l →
    BreaksRule g l (.cardinality l.source l.label)

namespace WellFormed

variable {g : EntityGraph} {l : Link}

/-- The look at the edges of the source finds every association that a new one clashes with. -/
theorem clashes_iff (h : g.WellFormed) : g.clashes l = true ↔ g.Clash l := by
  unfold clashes Clash
  rw [List.any_eq_true]
  simp only [Bool.and_eq_true, Bool.or_eq_true, beq_iff_eq, h.mem_edgesFrom]
  constructor
  · rintro ⟨e, ⟨⟨i, hi⟩, hs⟩, ⟨hkind, hlabel⟩, hone⟩
    exact ⟨i, e, hi, hkind, hs, hlabel, hone⟩
  · rintro ⟨i, e, hi, hkind, hs, hlabel, hone⟩
    exact ⟨e, ⟨⟨i, hi⟩, hs⟩, ⟨hkind, hlabel⟩, hone⟩

/-- The check of a new edge passes exactly when the rule of its kind is kept. -/
theorem checkKind_eq_ok_iff (h : g.WellFormed) :
    g.checkKind l = .ok () ↔
      (l.kind = .composition → (∀ owner, ¬ g.Composes owner l.target) ∧
        ¬ ReflTransGen g.Composes l.target l.source) ∧
      (l.kind = .association → ¬ g.Clash l) := by
  rw [← h.composerOf_eq_none_iff, ← h.owns_iff, ← h.clashes_iff]
  unfold checkKind
  cases hkind : l.kind with
  | composition =>
    cases howner : g.composerOf l.target with
    | some owner => simp
    | none => by_cases howns : g.owns l.target l.source = true <;> simp [howns]
  | association => by_cases hclash : g.clashes l = true <;> simp [hclash]
  | aggregation => simp
  | dependency => simp

/-- The check of a new edge fails exactly with the rule that it breaks. -/
theorem checkKind_eq_error_iff (h : g.WellFormed) {error : GraphError} :
    g.checkKind l = .error error ↔ g.BreaksRule l error := by
  constructor
  · -- Every branch in which the check fails is one of the rules.
    intro hcheck
    unfold checkKind at hcheck
    cases hkind : l.kind with
    | composition =>
      rw [hkind] at hcheck
      cases howner : g.composerOf l.target with
      | some owner =>
        rw [howner] at hcheck
        obtain rfl := Except.error.inj hcheck
        exact .ownershipConflict hkind (h.composerOf_eq_some_iff.mp howner)
      | none =>
        simp only [howner] at hcheck
        split_ifs at hcheck with howns
        obtain rfl := Except.error.inj hcheck
        exact .cycle hkind (h.composerOf_eq_none_iff.mp howner) (h.owns_iff.mp howns)
    | association =>
      simp only [hkind] at hcheck
      split_ifs at hcheck with hclash
      obtain rfl := Except.error.inj hcheck
      exact .cardinality hkind (h.clashes_iff.mp hclash)
    | aggregation => simp [hkind] at hcheck
    | dependency => simp [hkind] at hcheck
  · intro hbreaks
    unfold checkKind
    cases hbreaks with
    | ownershipConflict hkind hc => simp [hkind, h.composerOf_eq_some_iff.mpr hc]
    | cycle hkind hfree hchain =>
      simp [hkind, h.composerOf_eq_none_iff.mpr hfree, h.owns_iff.mpr hchain]
    | cardinality hkind hclash => simp [hkind, h.clashes_iff.mpr hclash]

end WellFormed

end ClassGraph.EntityGraph
