import Mathlib.Data.List.Nodup
import ClassGraph.Proofs.Model.Relations

/-!
# Recording relations

Relations are recorded one after another, and one that repeats the kind, the target and the member
of an earlier one is passed over. What a class without relations ends up with is therefore the list
of what was recorded without the repetitions (`foldl_relate`), whose keys are pairwise different
(`pairwise_firsts`).

Of each kind the other types are listed once, in the order in which they are first mentioned
(`count_targets`, `pairwise_targets`), whether the relations were recorded or read.
`foldl_relate_targets` puts both together.
-/

namespace ClassGraph

/-! ## First entries -/

section Firsts

variable {α κ : Type} [DecidableEq κ] {key : α → κ} {xs : List α} {k : κ}

/-- The entries of a list without those that repeat the key of an earlier one. -/
def firsts (key : α → κ) (xs : List α) : List α :=
  (xs.zipIdx.filter fun entry => key entry.1 ∉ (xs.take entry.2).map key).map Prod.fst

/-- One more element is kept unless its key is there already. -/
theorem firsts_concat (key : α → κ) (xs : List α) (x : α) :
    firsts key (xs ++ [x]) =
      if key x ∈ xs.map key then firsts key xs else firsts key xs ++ [x] := by
  -- In front of an entry of the shorter list stands the same as before.
  have hearlier : (xs.zipIdx.filter fun entry => key entry.1 ∉ ((xs ++ [x]).take entry.2).map key) =
      xs.zipIdx.filter fun entry => key entry.1 ∉ (xs.take entry.2).map key := by
    refine List.filter_congr fun entry hentry => ?_
    have hlt : entry.2 < xs.length := by simpa using List.snd_lt_of_mem_zipIdx hentry
    rw [List.take_append_of_le_length (Nat.le_of_lt hlt)]
  rw [firsts, List.zipIdx_append, List.filter_append, hearlier, List.map_append, ← firsts]
  by_cases hx : key x ∈ xs.map key <;> simp [hx]

/-- The keys of the first elements are the keys of all. -/
theorem mem_map_firsts : k ∈ (firsts key xs).map key ↔ k ∈ xs.map key := by
  induction xs using List.reverseRecOn with
  | nil => rfl
  | append_singleton xs x ih =>
    rw [firsts_concat]
    split_ifs with hx
    · rw [ih, List.map_append, List.mem_append, List.map_singleton, List.mem_singleton]
      exact ⟨.inl, fun h => h.elim id fun hk => hk ▸ hx⟩
    · rw [List.map_append, List.mem_append, ih, List.map_append, List.mem_append]

/-- No two of the first entries share a key. -/
theorem pairwise_firsts (key : α → κ) (xs : List α) :
    (firsts key xs).Pairwise fun x y => key x ≠ key y := by
  induction xs using List.reverseRecOn with
  | nil => exact .nil
  | append_singleton xs x ih =>
    rw [firsts_concat]
    split_ifs with hx
    · exact ih
    · refine List.pairwise_append.mpr ⟨ih, List.pairwise_singleton _ x, fun y hy x' hx' => ?_⟩
      obtain rfl := List.mem_singleton.mp hx'
      intro heq
      exact hx (mem_map_firsts.mp (heq ▸ List.mem_map_of_mem hy))

end Firsts

/-! ## What is recorded -/

/-- What tells a relation from the others of a class. -/
def Relation.key (r : Relation) : RelationKind × String × Option String := (r.kind, r.target, r.via)

/-- Two relations have the same key when they agree in kind, target and member. -/
theorem Relation.sameKey_iff {a b : Relation} : a.sameKey b = true ↔ a.key = b.key := by
  simp [Relation.sameKey, Relation.key, and_assoc]

namespace Classifier

variable {c : Classifier} {kind : RelationKind} {target : String} {r : Relation}

/-- A relation is recorded unless one with its key is known. -/
theorem relate_eq (c : Classifier) (r : Relation) :
    c.relate r = if r.key ∈ c.relations.map Relation.key then c
      else { c with relations := c.relations ++ [r] } := by
  have hknown : c.relations.any (·.sameKey r) = true ↔ r.key ∈ c.relations.map Relation.key := by
    simp only [List.any_eq_true, List.mem_map, Relation.sameKey_iff]
  rw [relate]
  simp only [hknown]

/-- A class without relations ends up with the first of each key. -/
theorem foldl_relate (hc : c.relations = []) (rs : List Relation) :
    rs.foldl relate c = { c with relations := firsts Relation.key rs } := by
  induction rs using List.reverseRecOn with
  | nil =>
    cases c
    cases hc
    rfl
  | append_singleton rs r ih =>
    rw [List.foldl_append, ih, List.foldl_cons, List.foldl_nil, relate_eq, firsts_concat]
    simp only [mem_map_firsts]
    split_ifs <;> rfl

/-- What was recorded once is known. -/
theorem relate_foldl_relate (hc : c.relations = []) {rs : List Relation} (hr : r ∈ rs) :
    (rs.foldl relate c).relate r = rs.foldl relate c := by
  rw [relate_eq, if_pos]
  rw [foldl_relate hc]
  exact mem_map_firsts.mpr (List.mem_map_of_mem hr)

/-! ## What is listed -/

/-- The class has a relation of the kind to the type. -/
def IsRelated (c : Classifier) (kind : RelationKind) (target : String) : Prop :=
  ∃ r ∈ c.relations, r.kind = kind ∧ r.target = target

instance : Decidable (c.IsRelated kind target) :=
  inferInstanceAs (Decidable (∃ r ∈ c.relations, _))

/-- The place of the first relation of the kind to the type. -/
def firstPlace (c : Classifier) (kind : RelationKind) (target : String) : Nat :=
  (c.relations.map fun r => (r.kind, r.target)).idxOf (kind, target)

/-- Another type is listed once for each kind of relation to it. -/
theorem count_targets (hne : target ≠ c.name) :
    (c.targets kind).count target = if c.IsRelated kind target then 1 else 0 := by
  have hmem : target ∈ c.targets kind ↔ c.IsRelated kind target := by
    rw [mem_targets, IsRelated, and_iff_right hne]
  split_ifs with hrelated
  · exact List.count_eq_one_of_mem (nodup_targets c kind) (hmem.mpr hrelated)
  · exact List.count_eq_zero_of_not_mem (mt hmem.mp hrelated)

/-- The place of a target among the relations of one kind is that of the first of them. -/
theorem idxOf_other? (hne : target ≠ c.name) :
    (c.relations.map (·.other? c.name kind)).idxOf (some target) = c.firstPlace kind target := by
  rw [firstPlace]
  induction c.relations with
  | nil => rfl
  | cons r rs ih =>
    have hfirst : (r.other? c.name kind == some target) =
        ((r.kind, r.target) == (kind, target)) := by
      rw [Bool.eq_iff_iff, beq_iff_eq, beq_iff_eq, Relation.other?_eq_some_iff, Prod.mk.injEq,
        and_iff_right hne]
    rw [List.map_cons, List.map_cons, List.idxOf_cons, List.idxOf_cons, hfirst, ih]

/-- The other types of a kind are listed in the order in which they are first mentioned. -/
theorem pairwise_targets (c : Classifier) (kind : RelationKind) :
    (c.targets kind).Pairwise fun a b => c.firstPlace kind a < c.firstPlace kind b := by
  have hordered := pairwise_addNew (·.other? c.name kind) c.relations
  rw [← targets_eq] at hordered
  refine hordered.imp_of_mem fun {a b} ha hb hlt => ?_
  rwa [idxOf_other? (mem_targets.mp ha).1, idxOf_other? (mem_targets.mp hb).1] at hlt

/-- What else a class depends on are the other types to which it has relations of no other kind. -/
theorem mem_uncoveredDependencies_iff (hne : target ≠ c.name) :
    target ∈ c.uncoveredDependencies ↔ ∀ kind, c.IsRelated kind target ↔ kind = .dependency := by
  rw [mem_uncoveredDependencies, and_iff_right hne]
  constructor
  · rintro ⟨hdependency, honly⟩ kind
    refine ⟨fun ⟨r, hr, hkind, htarget⟩ => hkind ▸ honly r hr htarget, fun hkind => ?_⟩
    rw [hkind]
    exact hdependency
  · intro hall
    exact ⟨(hall .dependency).mpr rfl, fun r hr htarget => (hall r.kind).mp ⟨r, hr, rfl, htarget⟩⟩

/-- What a class without relations has after some were recorded, and what any class lists of its
relations. What was recorded is there without the entries that repeat the kind, the target and the
member of an earlier one, nothing else of the class has changed, no two relations share these three,
and to record one again makes no difference. Of each kind, a type other than the class itself is
listed exactly once when there is a relation of this kind to it, and not at all when there is none;
the types stand in the order of the first relations to them. A type is an uncovered dependency
exactly when `dependency` is the only kind of relation to it. -/
theorem foldl_relate_targets :
    (∀ (c : Classifier) (rs : List Relation), c.relations = [] →
      let recorded := rs.foldl relate c
      recorded = { c with relations := firsts Relation.key rs } ∧
        (recorded.relations.Pairwise fun r r' => r.key ≠ r'.key) ∧
        ∀ r ∈ rs, recorded.relate r = recorded) ∧
    ∀ c : Classifier,
      (∀ target, target ≠ c.name →
        (∀ kind, (c.targets kind).count target = if c.IsRelated kind target then 1 else 0) ∧
          (target ∈ c.uncoveredDependencies ↔
            ∀ kind, c.IsRelated kind target ↔ kind = .dependency)) ∧
      ∀ kind, (c.targets kind).Pairwise fun a b => c.firstPlace kind a < c.firstPlace kind b := by
  refine ⟨fun c rs hc => ⟨foldl_relate hc rs, ?_, fun r hr => relate_foldl_relate hc hr⟩,
    fun c => ⟨fun target hne => ⟨fun kind => count_targets hne, mem_uncoveredDependencies_iff hne⟩,
      pairwise_targets c⟩⟩
  rw [foldl_relate hc]
  exact pairwise_firsts Relation.key rs

/-- A class that nothing is known of. -/
def fleetManager : Classifier := { name := "FleetManager", kind := .plain }

/-- What the members of the class say: the fourth relation repeats the first with another
multiplicity, the fifth repeats the second without a member, and the last leads to the class. -/
def fleetRelations : List Relation :=
  [{ kind := .aggregation, target := "Starship", via := some "fleet", cardinality := some .many },
    { kind := .dependency, target := "Pilot", via := some "assign" },
    { kind := .dependency, target := "Starship", via := some "assign" },
    { kind := .aggregation, target := "Starship", via := some "fleet", cardinality := some .one },
    { kind := .dependency, target := "Pilot" },
    { kind := .dependency, target := "FleetManager", via := some "copy" }]

/-- The fourth relation is passed over. The pilot and the starship are listed once each, and only
the pilot is an uncovered dependency. -/
theorem foldl_relate_targets_fleet :
    let recorded := fleetRelations.foldl relate fleetManager
    let again : Relation :=
      { kind := .aggregation, target := "Starship", via := some "fleet", cardinality := some .one }
    fleetManager.relations = [] ∧ again ∈ fleetRelations ∧
      recorded.relations = fleetRelations.eraseIdx 3 ∧ recorded.relate again = recorded ∧
      "Pilot" ≠ recorded.name ∧ (recorded.targets .dependency).count "Pilot" = 1 ∧
      "Pilot" ∈ recorded.uncoveredDependencies ∧
      "Starship" ≠ recorded.name ∧ (recorded.targets .dependency).count "Starship" = 1 ∧
      "Starship" ∉ recorded.uncoveredDependencies ∧
      (recorded.targets .dependency).Pairwise fun a b =>
        recorded.firstPlace .dependency a < recorded.firstPlace .dependency b := by
  intro recorded again
  obtain ⟨hrun, hlists⟩ := foldl_relate_targets
  have hagain : again ∈ fleetRelations := by decide
  obtain ⟨hrecorded, -, hknown⟩ := hrun fleetManager fleetRelations rfl
  obtain ⟨hothers, hordered⟩ := hlists recorded
  have hpilot : "Pilot" ≠ recorded.name := by decide
  have hstarship : "Starship" ≠ recorded.name := by decide
  obtain ⟨hpilots, huncovered⟩ := hothers "Pilot" hpilot
  obtain ⟨hstarships, hcovered⟩ := hothers "Starship" hstarship
  have hkinds : ∀ kind, recorded.IsRelated kind "Pilot" ↔ kind = .dependency := by
    intro kind
    cases kind <;> decide
  have haggregated : recorded.IsRelated .aggregation "Starship" := by decide
  refine ⟨rfl, hagain, ?_, hknown again hagain, hpilot, ?_, huncovered.mpr hkinds, hstarship, ?_,
    fun hmem => ?_, hordered .dependency⟩
  · exact (congrArg relations hrecorded).trans (by decide)
  · rw [hpilots, if_pos (by decide)]
  · rw [hstarships, if_pos (by decide)]
  · exact absurd ((hcovered.mp hmem .aggregation).mp haggregated) (by decide)

end Classifier

end ClassGraph
