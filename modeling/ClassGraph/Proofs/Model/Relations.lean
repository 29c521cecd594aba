import Mathlib.Data.List.Basic
import Mathlib.Data.List.Induction
import ClassGraph.Model.Basic

/-!
# The relations of a class

The types that a class is related to by one kind are the targets of its relations of this kind other
than itself, each once (`mem_targets`, `nodup_targets`), in the order of a list to which only what
is new is added (`pairwise_addNew`). What else it depends on are the targets of its dependencies to
which it has no relation of another kind (`mem_uncoveredDependencies`).
-/

namespace ClassGraph

/-- The target of a relation of the kind to another type than `name`. -/
def Relation.other? (r : Relation) (name : String) (kind : RelationKind) : Option String :=
  if r.kind = kind ∧ r.target ≠ name then some r.target else none

/-- The other class of a relation of a kind is its target, when that is not the class itself. -/
theorem Relation.other?_eq_some_iff {r : Relation} {name target : String} {kind : RelationKind} :
    r.other? name kind = some target ↔ target ≠ name ∧ r.kind = kind ∧ r.target = target := by
  rw [other?]
  constructor
  · intro h
    split_ifs at h with hother
    obtain rfl := Option.some.inj h
    exact ⟨hother.2, hother.1, rfl⟩
  · rintro ⟨hne, hkind, rfl⟩
    rw [if_pos ⟨hkind, hne⟩]

namespace Classifier

/-- The list with the members of another that are new added at its end, each once. -/
def addNew (seen more : List String) : List String :=
  more.foldl (fun seen target => if seen.contains target then seen else seen ++ [target]) seen

/-- A first name is added when it has not been seen, and then the others. -/
theorem addNew_cons (seen : List String) (y : String) (more : List String) :
    addNew seen (y :: more) = addNew (if seen.contains y then seen else seen ++ [y]) more := rfl

/-- Names and more names are added one after the other. -/
theorem addNew_append (seen more more' : List String) :
    addNew seen (more ++ more') = addNew (addNew seen more) more' := List.foldl_append

/-- What has been seen at the end was seen before or is among the names. -/
theorem mem_addNew {more : List String} {x : String} :
    ∀ {seen : List String}, x ∈ addNew seen more ↔ x ∈ seen ∨ x ∈ more := by
  induction more with
  | nil => simp [addNew]
  | cons y more ih =>
    intro seen
    rw [addNew_cons, ih, List.mem_cons]
    split_ifs with hy
    · rw [List.contains_iff_mem] at hy
      refine ⟨fun h => h.imp_right .inr, fun h => ?_⟩
      rcases h with h | rfl | h
      · exact .inl h
      · exact .inl hy
      · exact .inr h
    · rw [List.mem_append, List.mem_singleton, or_assoc]

/-- No name is seen twice. -/
theorem nodup_addNew {more : List String} :
    ∀ {seen : List String}, seen.Nodup → (addNew seen more).Nodup := by
  induction more with
  | nil => exact id
  | cons y more ih =>
    intro seen hseen
    rw [addNew_cons]
    apply ih
    split_ifs with hy
    · exact hseen
    · rw [List.contains_iff_mem] at hy
      refine List.nodup_append.mpr ⟨hseen, List.pairwise_singleton _ y, ?_⟩
      rintro x hx _ hxy rfl
      exact hy (List.mem_singleton.mp hxy ▸ hx)

/-- What is new stands in the order in which it is first mentioned. -/
theorem pairwise_addNew {α : Type} (f : α → Option String) (xs : List α) :
    (addNew [] (xs.filterMap f)).Pairwise fun a b =>
      (xs.map f).idxOf (some a) < (xs.map f).idxOf (some b) := by
  have hmentioned {xs : List α} {a : String} :
      a ∈ addNew [] (xs.filterMap f) ↔ some a ∈ xs.map f := by
    rw [mem_addNew, or_iff_right List.not_mem_nil, List.mem_filterMap, List.mem_map]
  induction xs using List.reverseRecOn with
  | nil => exact .nil
  | append_singleton xs x ih =>
    have hkept : (addNew [] (xs.filterMap f)).Pairwise fun a b =>
        ((xs ++ [x]).map f).idxOf (some a) < ((xs ++ [x]).map f).idxOf (some b) := by
      refine ih.imp_of_mem fun {a b} ha hb hlt => ?_
      rw [List.map_append, List.idxOf_append_of_mem (hmentioned.mp ha),
        List.idxOf_append_of_mem (hmentioned.mp hb)]
      exact hlt
    rw [List.filterMap_append, addNew_append]
    cases hx : f x with
    | none => rwa [List.filterMap_cons_none hx]
    | some b =>
      rw [List.filterMap_cons_some hx, addNew_cons]
      split_ifs with hseen
      · exact hkept
      · rw [List.contains_iff_mem] at hseen
        refine List.pairwise_append.mpr ⟨hkept, List.pairwise_singleton _ b, fun a ha b' hb' => ?_⟩
        obtain rfl := List.mem_singleton.mp hb'
        rw [List.map_append, List.idxOf_append_of_mem (hmentioned.mp ha),
          List.idxOf_append_of_notMem (mt hmentioned.mpr hseen)]
        exact Nat.lt_of_lt_of_le (List.idxOf_lt_length_of_mem (hmentioned.mp ha))
          (Nat.le_add_right _ _)

/-- The targets of a class are the others of its relations of the kind, each once. -/
theorem targets_eq (c : Classifier) (kind : RelationKind) :
    c.targets kind = addNew [] (c.relations.filterMap (·.other? c.name kind)) := by
  have hother : (c.relations.filter fun r => r.kind == kind && r.target != c.name).map (·.target) =
      c.relations.filterMap (·.other? c.name kind) := by
    rw [← List.filterMap_eq_map, List.filterMap_filter]
    refine List.filterMap_congr fun r _ => ?_
    simp [Relation.other?]
  rw [← hother]
  rfl

/-- The targets of a kind are those of the relations of this kind, without the class itself. -/
theorem mem_targets {c : Classifier} {kind : RelationKind} {target : String} :
    target ∈ c.targets kind ↔
      target ≠ c.name ∧ ∃ r ∈ c.relations, r.kind = kind ∧ r.target = target := by
  rw [targets_eq, mem_addNew, or_iff_right List.not_mem_nil, List.mem_filterMap]
  simp only [Relation.other?_eq_some_iff]
  constructor
  · rintro ⟨r, hr, hne, hrelated⟩
    exact ⟨hne, r, hr, hrelated⟩
  · rintro ⟨hne, r, hr, hrelated⟩
    exact ⟨r, hr, hne, hrelated⟩

/-- No target of a kind comes twice. -/
theorem nodup_targets (c : Classifier) (kind : RelationKind) : (c.targets kind).Nodup :=
  nodup_addNew List.nodup_nil

/-- What else a class depends on are the other classes to which it has dependencies only. -/
theorem mem_uncoveredDependencies {c : Classifier} {target : String} :
    target ∈ c.uncoveredDependencies ↔
      target ≠ c.name ∧ (∃ r ∈ c.relations, r.kind = .dependency ∧ r.target = target) ∧
        ∀ r ∈ c.relations, r.target = target → r.kind = .dependency := by
  rw [uncoveredDependencies, List.mem_filter, mem_targets, and_assoc]
  refine and_congr_right fun _ => and_congr_right fun _ => ?_
  rw [Bool.not_eq_true', ← Bool.not_eq_true, List.contains_iff_mem]
  simp only [List.mem_map, List.mem_filter, RelationKind.isStructural, bne_iff_ne]
  constructor
  · intro hnone r hr htarget
    by_contra hkind
    exact hnone ⟨r, ⟨hr, hkind⟩, htarget⟩
  · rintro hall ⟨r, ⟨hr, hkind⟩, htarget⟩
    exact hkind (hall r hr htarget)

/-- Nothing that a class depends on comes twice. -/
theorem nodup_uncoveredDependencies (c : Classifier) : c.uncoveredDependencies.Nodup :=
  (nodup_targets c .dependency).filter _

end Classifier

end ClassGraph
