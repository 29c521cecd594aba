import Mathlib.Data.List.Perm.Basic
import Mathlib.Data.String.Basic
import ClassGraph.Diagram.Aml
import ClassGraph.Diagram.PlantUml
import ClassGraph.Proofs.Model.Relations
import ClassGraph.Proofs.Ordered

/-!
# Classes in their packages

What a document shows of the classes is an arrangement: its packages with the classes of each, and
the loose classes (`Arrangement`). A class goes to the end of its package, one class after the
other; a diagram searches its list of packages for this and adds a new one at the end, and a
document keeps its packages in a map. Either way the classes of a package are found in their order,
in packages that stand in the order in which they are mentioned (`PlantUml.grouped_eq`) or by name
(`Aml.place_eq`).

The rest holds of the packages in any order, when each of them is there once (`holds_arranged`): no
class is lost or placed twice, and the classes of a package are in the order of their names
(`lists_byName`).
-/

namespace ClassGraph

/-! ## Values under keys -/

section

variable {κ α : Type} [DecidableEq κ] {keys : List κ}

/-- A key of a list finds the value that goes with it. -/
theorem lookup_map_mk (f : κ → α) (key : κ) :
    (keys.map fun k => (k, f k)).lookup key = if key ∈ keys then some (f key) else none := by
  induction keys with
  | nil => simp
  | cons k keys ih =>
    rw [List.map_cons, List.lookup_cons, ih]
    by_cases hk : key = k
    · simp [hk]
    · simp [hk, beq_false_of_ne hk]

/-- A value that is set takes the place of the one that goes with the key. -/
theorem Keyed.put_map_mk (hnodup : keys.Nodup) (f : κ → α) {key : κ} (hkey : key ∈ keys)
    (value : α) :
    Keyed.put key value (keys.map fun k => (k, f k)) =
      keys.map fun k => (k, if k = key then value else f k) := by
  induction keys with
  | nil => cases hkey
  | cons k keys ih =>
    obtain ⟨hk, hnodup⟩ := List.nodup_cons.mp hnodup
    rw [List.map_cons, Keyed.put, List.map_cons]
    by_cases hfirst : k = key
    · -- The key does not come again, so that the others keep their values.
      subst hfirst
      rw [if_pos rfl, if_pos rfl]
      refine congrArg (_ :: ·) (List.map_congr_left fun k' hk' => ?_)
      rw [if_neg (ne_of_mem_of_not_mem hk' hk)]
    · rw [if_neg hfirst, if_neg hfirst,
        ih hnodup ((List.mem_cons.mp hkey).resolve_left (Ne.symm hfirst))]

end

namespace Diagram

/-- The classes of a document, as it places them. -/
structure Arrangement where
  /-- The packages in their order, each with its classes in their order. -/
  packages : List (String × List Classifier)
  /-- The classes outside of all packages, in their order. -/
  loose : List Classifier

/-- The classes of one package, or those without one: by name, and those of one name in the order
that they have among all classes. -/
structure Lists (classes : List Classifier) (package : Option String)
    (members : List Classifier) : Prop where
  /-- They are the classes of the package, each as often as it is there. -/
  perm : members.Perm (classes.filter fun c => c.package == package)
  /-- Their names ascend. -/
  ascending : members.Pairwise fun a b => a.name ≤ b.name
  /-- Those of one name keep their order. -/
  stable : ∀ name, members.filter (·.name == name) =
    classes.filter fun c => c.package == package && c.name == name

/-- All classes are placed, each once. -/
structure Arrangement.Holds (a : Arrangement) (classes : List Classifier) : Prop where
  /-- No class is lost or placed twice. -/
  perm : (a.packages.flatMap (·.2) ++ a.loose).Perm classes
  /-- No package comes twice. -/
  nodup : (a.packages.map (·.1)).Nodup
  /-- A class with a package stands in it. -/
  placed : ∀ c ∈ classes, ∀ package, c.package = some package →
    ∃ members, (package, members) ∈ a.packages ∧ c ∈ members
  /-- A package has classes, and lists them. -/
  lists : ∀ block ∈ a.packages, block.2 ≠ [] ∧ Lists classes (some block.1) block.2
  /-- The classes without a package stand outside. -/
  loose : Lists classes none a.loose

/-- The arrangement of classes in packages. -/
def arranged (packages : List String) (classes : List Classifier) : Arrangement where
  packages := packages.map fun package =>
    (package, byName (classes.filter fun c => c.package == some package))
  loose := byName (classes.filter fun c => c.package == none)

section

variable {classes : List Classifier} {packages : List String}

/-! ## Classes by name -/

/-- Sorting by name keeps each class as often as it is there. -/
theorem perm_byName (classes : List Classifier) : (byName classes).Perm classes :=
  List.mergeSort_perm _ _

/-- Names that stand in order one behind the other are in order. -/
theorem name_le_trans (a b c : Classifier) (hab : decide (a.name ≤ b.name) = true)
    (hbc : decide (b.name ≤ c.name) = true) : decide (a.name ≤ c.name) = true :=
  decide_eq_true ((of_decide_eq_true hab).trans (of_decide_eq_true hbc))

/-- Of two names one does not come behind the other. -/
theorem name_le_total (a b : Classifier) :
    (decide (a.name ≤ b.name) || decide (b.name ≤ a.name)) = true := by
  simpa using le_total a.name b.name

/-- Classes that are sorted by name have ascending names. -/
theorem ascending_byName (classes : List Classifier) :
    (byName classes).Pairwise fun a b => a.name ≤ b.name :=
  (List.pairwise_mergeSort name_le_trans name_le_total classes).imp of_decide_eq_true

/-- Sorting by name keeps the order of the classes of one name. -/
theorem filter_byName (classes : List Classifier) (name : String) :
    (byName classes).filter (·.name == name) = classes.filter (·.name == name) := by
  have hequal : (classes.filter (·.name == name)).Pairwise
      fun a b => decide (a.name ≤ b.name) = true := by
    refine List.pairwise_of_forall_mem_list fun a ha b hb => decide_eq_true (le_of_eq ?_)
    rw [beq_iff_eq.mp (List.mem_filter.mp ha).2, beq_iff_eq.mp (List.mem_filter.mp hb).2]
  -- The classes of the name are sorted, so that they are found in their order behind the sorting.
  have hsublist := (List.sublist_mergeSort name_le_trans name_le_total hequal
    List.filter_sublist).filter (·.name == name)
  rw [List.filter_filter] at hsublist
  simp only [Bool.and_self] at hsublist
  exact (hsublist.eq_of_length ((perm_byName classes).filter _).length_eq.symm).symm

/-- The classes of a package, sorted by name, list the package. -/
theorem lists_byName (classes : List Classifier) (package : Option String) :
    Lists classes package (byName (classes.filter fun c => c.package == package)) where
  perm := perm_byName _
  ascending := ascending_byName _
  stable name := by
    rw [filter_byName, List.filter_filter]
    exact List.filter_congr fun c _ => Bool.and_comm ..

/-! ## Packages -/

/-- A class stands in one of some packages, or in none of them. -/
theorem perm_flatMap_packages (hnodup : packages.Nodup) (classes : List Classifier) :
    ((packages.flatMap fun p => classes.filter fun c => c.package == some p) ++
      classes.filter fun c => decide (∀ p ∈ packages, c.package ≠ some p)).Perm classes := by
  induction packages generalizing classes with
  | nil => simp
  | cons p packages ih =>
    obtain ⟨hp, hnodup⟩ := List.nodup_cons.mp hnodup
    -- The other packages are filled from the classes outside of the first.
    have hrest := ih hnodup (classes.filter fun c => !(c.package == some p))
    simp only [List.filter_filter] at hrest
    have hblocks : (packages.flatMap fun q => classes.filter fun c =>
        c.package == some q && !(c.package == some p)) =
        packages.flatMap fun q => classes.filter fun c => c.package == some q := by
      refine List.flatMap_congr fun q hq => List.filter_congr fun c _ => ?_
      have hne : q ≠ p := fun h => hp (h ▸ hq)
      by_cases hc : c.package = some q <;> simp [hc, hne]
    have hloose : (classes.filter fun c =>
        decide (∀ q ∈ packages, c.package ≠ some q) && !(c.package == some p)) =
        classes.filter fun c => decide (∀ q ∈ p :: packages, c.package ≠ some q) := by
      refine List.filter_congr fun c _ => ?_
      simp only [List.forall_mem_cons, Bool.decide_and, Bool.and_comm]
      by_cases hc : c.package = some p <;> simp [hc]
    rw [hblocks, hloose] at hrest
    rw [List.flatMap_cons, List.append_assoc]
    exact (hrest.append_left _).trans (List.filter_append_perm _ classes)

/-- Classes are arranged in packages that are just those of the classes, each once. -/
theorem holds_arranged (hnodup : packages.Nodup)
    (hmem : ∀ p, p ∈ packages ↔ ∃ c ∈ classes, c.package = some p) :
    (arranged packages classes).Holds classes where
  perm := by
    have hloose : (classes.filter fun c => c.package == none) =
        classes.filter fun c => decide (∀ p ∈ packages, c.package ≠ some p) := by
      refine List.filter_congr fun c hc => ?_
      cases hp : c.package with
      | none => simp
      | some p => simpa using (hmem p).mpr ⟨c, hc, hp⟩
    rw [arranged, List.flatMap_map, hloose]
    refine (List.Perm.append ?_ (perm_byName _)).trans (perm_flatMap_packages hnodup classes)
    exact List.Perm.flatMap_left _ fun p _ => perm_byName _
  nodup := by
    rw [arranged, List.map_map]
    simpa [Function.comp_def] using hnodup
  placed c hc p hp := by
    refine ⟨_, List.mem_map.mpr ⟨p, (hmem p).mpr ⟨c, hc, hp⟩, rfl⟩, ?_⟩
    rw [(perm_byName _).mem_iff, List.mem_filter]
    exact ⟨hc, by simp [hp]⟩
  lists block hblock := by
    obtain ⟨p, hp, rfl⟩ := List.mem_map.mp hblock
    obtain ⟨c, hc, hpackage⟩ := (hmem p).mp hp
    refine ⟨List.ne_nil_of_mem (a := c) ?_, lists_byName classes (some p)⟩
    rw [(perm_byName _).mem_iff, List.mem_filter]
    exact ⟨hc, by simp [hpackage]⟩
  loose := lists_byName classes none

end

/-! ## The packages of both notations -/

variable {classes : List Classifier}

/-- The classes of a package, with one more class. -/
theorem filter_package_concat (classes : List Classifier) (c : Classifier)
    (package : Option String) :
    ((classes ++ [c]).filter fun c => c.package == package) =
      (classes.filter fun c => c.package == package) ++
        if c.package = package then [c] else [] := by
  by_cases hc : c.package = package <;> simp [hc]

namespace PlantUml

/-- The packages of the classes, each once, in the order in which they are mentioned. -/
def packages (classes : List Classifier) : List String :=
  Classifier.addNew [] (classes.filterMap (·.package))

/-- No package comes twice. -/
theorem nodup_packages (classes : List Classifier) : (packages classes).Nodup :=
  Classifier.nodup_addNew List.nodup_nil

/-- The packages are those of the classes. -/
theorem mem_packages {p : String} :
    p ∈ packages classes ↔ ∃ c ∈ classes, c.package = some p := by
  rw [packages, Classifier.mem_addNew, or_iff_right List.not_mem_nil, List.mem_filterMap]

/-- A package stands in front of another when the first class in it does. -/
theorem pairwise_packages (classes : List Classifier) :
    (packages classes).Pairwise fun p q =>
      (classes.map (·.package)).idxOf (some p) < (classes.map (·.package)).idxOf (some q) := by
  exact Classifier.pairwise_addNew (·.package) classes

/-- The packages of the classes with one more class: the package of this class comes last when it is
new. -/
theorem packages_concat (classes : List Classifier) (c : Classifier) :
    packages (classes ++ [c]) =
      match c.package with
      | none => packages classes
      | some p => if p ∈ packages classes then packages classes else packages classes ++ [p] := by
  unfold packages
  rw [List.filterMap_append, Classifier.addNew_append]
  cases hp : c.package with
  | none =>
    rw [List.filterMap_cons_none hp]
    rfl
  | some p =>
    rw [List.filterMap_cons_some hp, Classifier.addNew_cons]
    simp only [List.contains_iff_mem]
    rfl

/-- The classes that have been placed stand in their packages, in their order. -/
theorem foldl_place (classes : List Classifier) :
    classes.foldl place ([], []) =
      ((packages classes).map fun p => (p, classes.filter fun c => c.package == some p),
        classes.filter fun c => c.package == none) := by
  induction classes using List.reverseRecOn with
  | nil => rfl
  | append_singleton classes c ih =>
    rw [List.foldl_append, ih, List.foldl_cons, List.foldl_nil, place, packages_concat]
    simp only [filter_package_concat]
    cases hp : c.package with
    | none => simp
    | some p =>
      have hother : ∀ q, q ≠ p → (if some p = some q then [c] else []) = [] :=
        fun q hq => if_neg fun h => hq (Option.some.inj h).symm
      dsimp only
      rw [lookup_map_mk]
      by_cases hmem : p ∈ packages classes
      · -- The search finds the package, and the class goes to its end.
        rw [if_pos hmem, if_pos hmem]
        dsimp only
        rw [Keyed.put_map_mk (nodup_packages classes) _ hmem, if_neg (by simp), List.append_nil]
        refine congrArg (·, _) (List.map_congr_left fun q _ => ?_)
        by_cases hq : q = p
        · simp [hq]
        · rw [if_neg hq, hother q hq, List.append_nil]
      · -- No class before was in the package, and it is added behind the others.
        have hnone : (classes.filter fun c => c.package == some p) = [] :=
          List.filter_eq_nil_iff.mpr fun c' hc' hpackage =>
            hmem (mem_packages.mpr ⟨c', hc', beq_iff_eq.mp hpackage⟩)
        rw [if_neg hmem, if_neg hmem]
        dsimp only
        rw [List.map_append, List.map_singleton, hnone, if_pos rfl, if_neg (by simp),
          List.append_nil, List.nil_append]
        refine congrArg (· ++ _, _) (List.map_congr_left fun q hq => ?_)
        rw [hother q fun h => hmem (h ▸ hq), List.append_nil]

/-- A diagram arranges its classes in the packages in the order in which they are mentioned. -/
theorem grouped_eq (classes : List Classifier) :
    grouped classes =
      ((arranged (packages classes) classes).packages,
        (arranged (packages classes) classes).loose) := by
  rw [grouped, foldl_place, arranged]
  dsimp only
  rw [List.map_map]
  rfl

end PlantUml

namespace Aml

/-- The namespaces of the classes, in the order of their names. -/
def namespaces (classes : List Classifier) : List String :=
  (Std.ExtTreeSet.ofList (classes.filterMap (·.package))).toList

/-- No namespace comes twice. -/
theorem nodup_namespaces (classes : List Classifier) : (namespaces classes).Nodup :=
  Ordered.nodup_toList _

/-- The namespaces are the packages of the classes. -/
theorem mem_namespaces {p : String} :
    p ∈ namespaces classes ↔ ∃ c ∈ classes, c.package = some p := by
  rw [namespaces, Std.ExtTreeSet.mem_toList, Ordered.mem_set_ofList, List.mem_filterMap]

/-- A class with its package. -/
def packaged? (c : Classifier) : Option (String × Classifier) := c.package.map (·, c)

/-- Placing classes adds those with a package under it and the others behind the loose ones. -/
theorem foldl_place (classes : List Classifier) :
    ∀ groups, classes.foldl place groups =
      ((classes.filterMap packaged?).foldl (fun m entry => Keyed.push entry.1 entry.2 m) groups.1,
        groups.2 ++ classes.filter fun c => c.package == none) := by
  induction classes with
  | nil => simp
  | cons c classes ih =>
    intro groups
    rw [List.foldl_cons, ih, place]
    cases hp : c.package with
    | none => simp [packaged?, hp]
    | some p => simp [packaged?, hp]

/-- The classes with their packages that are of one package are its classes. -/
theorem filterMap_packaged? (classes : List Classifier) (p : String) :
    ((classes.filterMap packaged?).filter fun entry => entry.1 = p).map Prod.snd =
      classes.filter fun c => c.package == some p := by
  rw [← List.filterMap_eq_filter, List.filterMap_filterMap, ← List.filterMap_eq_filter,
    List.map_filterMap]
  refine List.filterMap_congr fun c _ => ?_
  cases hc : c.package with
  | none => simp [packaged?, hc, Option.guard]
  | some q => by_cases hq : q = p <;> simp [packaged?, hc, hq, Option.guard]

/-- The map of the packages holds the classes of each, by the names of the packages. -/
theorem toList_foldl_place (classes : List Classifier) :
    (classes.foldl place (∅, [])).1.toList =
      (namespaces classes).map fun p => (p, classes.filter fun c => c.package == some p) := by
  have hget (p : String) : (classes.foldl place (∅, [])).1[p]? =
      if (classes.filter fun c => c.package == some p) = [] then none
      else some (classes.filter fun c => c.package == some p) := by
    rw [foldl_place, Ordered.getElem?_foldl_push, filterMap_packaged?]
    simp
  refine Ordered.eq_of_ascending_keys (f := Prod.fst) Std.ExtTreeMap.ordered_keys_toList ?_ ?_
  · have hordered : (namespaces classes).Pairwise fun p q => compare p q = .lt :=
      Std.ExtTreeSet.ordered_toList
    exact List.pairwise_map.mpr hordered
  · rintro ⟨p, members⟩
    rw [Std.ExtTreeMap.mem_toList_iff_getElem?_eq_some, hget, List.mem_map]
    -- A package has classes when it is one of the namespaces.
    have hnil : (classes.filter fun c => c.package == some p) ≠ [] ↔ p ∈ namespaces classes := by
      simp [mem_namespaces, List.filter_eq_nil_iff]
    constructor
    · intro h
      split_ifs at h with hempty
      exact ⟨p, hnil.mp hempty, by rw [Option.some.inj h]⟩
    · rintro ⟨q, hq, heq⟩
      obtain ⟨rfl, rfl⟩ := Prod.mk.inj heq
      rw [if_neg (hnil.mpr hq)]

/-- A document arranges its classes in the namespaces by name. -/
theorem place_eq (classes : List Classifier) :
    ((classes.foldl place (∅, [])).1.toList.map fun (p, members) => (p, byName members),
        byName (classes.foldl place (∅, [])).2) =
      ((arranged (namespaces classes) classes).packages,
        (arranged (namespaces classes) classes).loose) := by
  rw [toList_foldl_place, foldl_place, arranged, List.map_map, List.nil_append]
  rfl

end Aml

end Diagram

end ClassGraph
