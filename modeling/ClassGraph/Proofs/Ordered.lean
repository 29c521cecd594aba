import Std.Data.ExtTreeMap
import Std.Data.ExtTreeSet
import Mathlib.Data.Finset.Card
import Mathlib.Data.List.Basic
import Mathlib.Data.String.Basic
import Mathlib.Order.Bounds.Basic
import ClassGraph.Keyed

/-!
# Ordered maps and sets

Look-ups after one change of an ordered map, with equality of keys in place of their comparison, and
the lists of keys and values: a list in strictly ascending order is fixed by its members
(`eq_of_ascending`), so that the values under the keys of a set are a filter of all values
(`filterMap_toList_eq_filter`), and a value under a new greatest key is added at the end
(`toList_insert_of_lt`).
-/

namespace ClassGraph.Ordered

variable {κ α : Type} [Ord κ] [Std.TransOrd κ] [Std.LawfulEqOrd κ]

/-- An insertion changes the look-up of its key only. -/
theorem getElem?_insert [DecidableEq κ] (m : Std.ExtTreeMap κ α) (k a : κ) (v : α) :
    (m.insert k v)[a]? = if a = k then some v else m[a]? := by
  rw [Std.ExtTreeMap.getElem?_insert]
  by_cases h : a = k
  · rw [if_pos h, if_pos (Std.LawfulEqOrd.compare_eq_iff_eq.mpr h.symm)]
  · rw [if_neg h, if_neg fun hc => h (Std.LawfulEqOrd.compare_eq_iff_eq.mp hc).symm]

/-- A removal changes the look-up of its key only. -/
theorem getElem?_erase [DecidableEq κ] (m : Std.ExtTreeMap κ α) (k a : κ) :
    (m.erase k)[a]? = if a = k then none else m[a]? := by
  rw [Std.ExtTreeMap.getElem?_erase]
  by_cases h : a = k
  · rw [if_pos h, if_pos (Std.LawfulEqOrd.compare_eq_iff_eq.mpr h.symm)]
  · rw [if_neg h, if_neg fun hc => h (Std.LawfulEqOrd.compare_eq_iff_eq.mp hc).symm]

omit [Std.LawfulEqOrd κ] in
/-- A key is in a map exactly when it has a value there. -/
theorem mem_iff_exists (m : Std.ExtTreeMap κ α) (k : κ) : k ∈ m ↔ ∃ v, m[k]? = some v := by
  rw [Std.ExtTreeMap.mem_iff_isSome_getElem?, Option.isSome_iff_exists]

omit [Std.LawfulEqOrd κ] in
/-- A key with a value is in the map. -/
theorem mem_of_getElem? {m : Std.ExtTreeMap κ α} {k : κ} {v : α} (h : m[k]? = some v) : k ∈ m :=
  (mem_iff_exists m k).mpr ⟨v, h⟩

/-- The keys of a map with one more entry are this key and those that it had. -/
theorem mem_insert (m : Std.ExtTreeMap κ α) (k a : κ) (v : α) :
    a ∈ m.insert k v ↔ a = k ∨ a ∈ m := by
  rw [Std.ExtTreeMap.mem_insert, Std.LawfulEqOrd.compare_eq_iff_eq, eq_comm]

/-- The keys of a map without an entry are the others. -/
theorem mem_erase (m : Std.ExtTreeMap κ α) (k a : κ) : a ∈ m.erase k ↔ a ∈ m ∧ a ≠ k := by
  rw [Std.ExtTreeMap.mem_erase, ne_eq, Std.LawfulEqOrd.compare_eq_iff_eq, eq_comm, and_comm]

/-- The members of a set with one more are this one and those that it had. -/
theorem mem_set_insert (s : Std.ExtTreeSet κ) (k a : κ) : a ∈ s.insert k ↔ a = k ∨ a ∈ s := by
  rw [Std.ExtTreeSet.mem_insert, Std.LawfulEqOrd.compare_eq_iff_eq, eq_comm]

/-- The members of a set without one are the others. -/
theorem mem_set_erase (s : Std.ExtTreeSet κ) (k a : κ) : a ∈ s.erase k ↔ a ∈ s ∧ a ≠ k := by
  rw [Std.ExtTreeSet.mem_erase, ne_eq, Std.LawfulEqOrd.compare_eq_iff_eq, eq_comm, and_comm]

/-- Two lists whose keys are in strictly ascending order are equal when they have the same
members. -/
theorem eq_of_ascending_keys {β : Type} {f : β → κ} {l₁ l₂ : List β}
    (h₁ : l₁.Pairwise fun a b => compare (f a) (f b) = .lt)
    (h₂ : l₂.Pairwise fun a b => compare (f a) (f b) = .lt) (h : ∀ b, b ∈ l₁ ↔ b ∈ l₂) :
    l₁ = l₂ := by
  have hnodup : ∀ {l : List β}, (l.Pairwise fun a b => compare (f a) (f b) = .lt) → l.Nodup :=
    fun hl => hl.imp fun hab hne => by subst hne; simp at hab
  -- Both lists are permutations of one another, and a strict order allows for one arrangement.
  refine List.Perm.eq_of_pairwise ?_ h₁ h₂ ?_
  · exact fun a b _ _ hab hba => absurd hba (Std.OrientedCmp.not_lt_of_lt hab)
  · exact (List.perm_ext_iff_of_nodup (hnodup h₁) (hnodup h₂)).mpr h

/-- Two lists in strictly ascending order with the same members are equal. -/
theorem eq_of_ascending {l₁ l₂ : List κ} (h₁ : l₁.Pairwise fun a b => compare a b = .lt)
    (h₂ : l₂.Pairwise fun a b => compare a b = .lt) (h : ∀ k, k ∈ l₁ ↔ k ∈ l₂) : l₁ = l₂ :=
  eq_of_ascending_keys (f := id) h₁ h₂ h

/-- A value under a key behind all others comes last. -/
theorem toList_insert_of_lt {m : Std.ExtTreeMap κ α} {k : κ} (h : ∀ a ∈ m, compare a k = .lt)
    (v : α) : (m.insert k v).toList = m.toList ++ [(k, v)] := by
  classical
  have hfree : m[k]? = none := (getElem?_eq_none_iff m k).mpr fun hk => by simpa using h k hk
  refine eq_of_ascending_keys (f := Prod.fst) Std.ExtTreeMap.ordered_keys_toList ?_ ?_
  · refine List.pairwise_append.mpr
      ⟨Std.ExtTreeMap.ordered_keys_toList, List.pairwise_singleton _ _, ?_⟩
    rintro ⟨a, w⟩ ha _ hb
    rw [List.mem_singleton.mp hb]
    exact h a ((mem_iff_exists m a).mpr ⟨w, Std.ExtTreeMap.mem_toList_iff_getElem?_eq_some.mp ha⟩)
  · rintro ⟨a, w⟩
    rw [List.mem_append, List.mem_singleton, Std.ExtTreeMap.mem_toList_iff_getElem?_eq_some,
      Std.ExtTreeMap.mem_toList_iff_getElem?_eq_some, getElem?_insert]
    by_cases ha : a = k
    · simp [ha, hfree, eq_comm]
    · simp [ha]

/-- In the entries of a map, those in front of an entry and those behind it have other keys. -/
theorem exists_toList_eq {m : Std.ExtTreeMap κ α} {k : κ} {v : α} (h : m[k]? = some v) :
    ∃ before behind, m.toList = before ++ (k, v) :: behind ∧ ∀ p ∈ before ++ behind, p.1 ≠ k := by
  obtain ⟨before, behind, hsplit⟩ := List.append_of_mem
    (Std.ExtTreeMap.mem_toList_iff_getElem?_eq_some.mpr h)
  have hdistinct : (before ++ (k, v) :: behind).Pairwise fun p q => ¬ compare p.1 q.1 = .eq :=
    hsplit ▸ Std.ExtTreeMap.distinct_keys_toList
  obtain ⟨-, hbehind, hbefore⟩ := List.pairwise_append.mp hdistinct
  refine ⟨before, behind, hsplit, ?_⟩
  rintro p hp rfl
  rcases List.mem_append.mp hp with hp | hp
  · exact hbefore p hp _ List.mem_cons_self Std.ReflCmp.compare_self
  · exact (List.pairwise_cons.mp hbehind).1 p hp Std.ReflCmp.compare_self

/-- Adding values under their keys puts those of a key behind the ones that are there. -/
theorem getElem?_foldl_push [DecidableEq κ] (l : List (κ × α)) (k : κ) :
    ∀ m : Std.ExtTreeMap κ (List α),
      (l.foldl (fun m entry => Keyed.push entry.1 entry.2 m) m)[k]? =
        if (l.filter fun entry => entry.1 = k).map Prod.snd = [] then m[k]?
        else some (m[k]?.getD [] ++ (l.filter fun entry => entry.1 = k).map Prod.snd) := by
  induction l with
  | nil => simp
  | cons entry l ih =>
    intro m
    rw [List.foldl_cons, ih, Keyed.push, getElem?_insert]
    -- The first value changes what stands under its own key.
    by_cases hk : entry.1 = k
    · rw [List.filter_cons_of_pos (by simpa using hk), if_pos hk.symm]
      by_cases hnil : (l.filter fun entry => entry.1 = k).map Prod.snd = []
      · simp [hk, hnil]
      · simp [hk, hnil]
    · rw [List.filter_cons_of_neg (by simpa using hk), if_neg (Ne.symm hk)]

/-- Two maps with the same keys have the same size. -/
theorem size_eq_of_mem_iff {β : Type} {m : Std.ExtTreeMap κ α} {n : Std.ExtTreeMap κ β}
    (h : ∀ k, k ∈ m ↔ k ∈ n) : m.size = n.size := by
  have hkeys : m.keys = n.keys := by
    refine eq_of_ascending Std.ExtTreeMap.ordered_keys Std.ExtTreeMap.ordered_keys fun k => ?_
    rw [Std.ExtTreeMap.mem_keys, Std.ExtTreeMap.mem_keys, h]
  rw [← Std.ExtTreeMap.length_keys, hkeys, Std.ExtTreeMap.length_keys]

/-- The values under the keys of a set, in the order of the keys, are a filter of all values when
the set has the keys of the values that pass it. -/
theorem filterMap_toList_eq_filter (m : Std.ExtTreeMap κ α) (s : Std.ExtTreeSet κ) (p : α → Bool)
    (h : ∀ k, k ∈ s ↔ ∃ v, m[k]? = some v ∧ p v = true) :
    (s.toList.filterMap fun k => m[k]?) = (m.toList.map Prod.snd).filter p := by
  -- The keys of the set are those of the entries that pass, both in ascending order.
  have hkeys : s.toList = (m.toList.filter fun kv => p kv.2).map Prod.fst := by
    apply eq_of_ascending Std.ExtTreeSet.ordered_toList
    · rw [List.pairwise_map]
      exact Std.ExtTreeMap.ordered_keys_toList.filter _
    · intro k
      rw [Std.ExtTreeSet.mem_toList, h]
      simp
  rw [hkeys, List.filterMap_map, List.filter_map]
  apply List.filterMap_eq_map_iff_forall_eq_some.mpr
  rintro ⟨k, v⟩ hkv
  simpa using (List.mem_filter.mp hkv).1

/-- A map of a list with different keys has the entries of the list. -/
theorem getElem?_ofList_eq_some_iff {l : List (κ × α)} (h : (l.map Prod.fst).Nodup) {k : κ}
    {v : α} : (Std.ExtTreeMap.ofList l)[k]? = some v ↔ (k, v) ∈ l := by
  classical
  have hmem : ∀ {v : α}, (k, v) ∈ l → (Std.ExtTreeMap.ofList l)[k]? = some v := by
    refine fun hkv => Std.ExtTreeMap.getElem?_ofList_of_mem Std.ReflCmp.compare_self ?_ hkv
    exact (List.pairwise_map.mp h).imp fun hne hc => hne (Std.LawfulEqOrd.compare_eq_iff_eq.mp hc)
  refine ⟨fun hk => ?_, hmem⟩
  -- A key of the list has the value of its one entry, and no other key has a value.
  by_cases hkey : k ∈ l.map Prod.fst
  · obtain ⟨⟨_, w⟩, hkw, rfl⟩ := List.mem_map.mp hkey
    obtain rfl := Option.some.inj ((hmem hkw).symm.trans hk)
    exact hkw
  · rw [Std.ExtTreeMap.getElem?_ofList_of_contains_eq_false (by simpa using hkey)] at hk
    cases hk

/-! ## Sets -/

/-- The members of the set of a list are those of the list. -/
theorem mem_set_ofList (l : List κ) (k : κ) : k ∈ Std.ExtTreeSet.ofList l ↔ k ∈ l := by
  classical
  rw [Std.ExtTreeSet.mem_ofList, List.contains_iff_mem]

omit [Std.LawfulEqOrd κ] in
/-- A union of a family of sets onto a set has the members of all of them. -/
theorem mem_foldl_union {β : Type} {f : β → Std.ExtTreeSet κ} {k : κ} (l : List β) :
    ∀ {s : Std.ExtTreeSet κ},
      k ∈ l.foldl (fun all b => all ∪ f b) s ↔ k ∈ s ∨ ∃ b ∈ l, k ∈ f b := by
  induction l with
  | nil => simp
  | cons b l ih =>
    intro s
    rw [List.foldl_cons, ih, Std.ExtTreeSet.mem_union_iff]
    simp only [List.mem_cons, exists_eq_or_imp, or_assoc]

omit [Std.LawfulEqOrd κ] in
/-- No member of a set is listed twice. -/
theorem nodup_toList (s : Std.ExtTreeSet κ) : s.toList.Nodup :=
  Std.ExtTreeSet.distinct_toList.imp Std.ReflCmp.ne_of_cmp_ne_eq

/-- The names of a set are in ascending order. -/
theorem ascending_toList (s : Std.ExtTreeSet String) : s.toList.Pairwise (· < ·) :=
  Std.ExtTreeSet.ordered_toList.imp compare_lt_iff_lt.mp

/-- A search through a set of names finds the least that passes. -/
theorem find?_toList_eq_some_iff {s : Std.ExtTreeSet String} {p : String → Bool} {name : String} :
    s.toList.find? p = some name ↔ IsLeast {other | other ∈ s ∧ p other = true} name := by
  have hleast : ∀ {name : String}, s.toList.find? p = some name →
      IsLeast {other | other ∈ s ∧ p other = true} name := by
    intro name hfind
    obtain ⟨hpass, before, behind, hsplit, hbefore⟩ := List.find?_eq_some_iff_append.mp hfind
    have hordered : (before ++ name :: behind).Pairwise (· < ·) := hsplit ▸ ascending_toList s
    refine ⟨⟨Std.ExtTreeSet.mem_toList.mp (List.mem_of_find?_eq_some hfind), hpass⟩, ?_⟩
    rintro other ⟨hother, hpass'⟩
    rw [← Std.ExtTreeSet.mem_toList, hsplit, List.mem_append, List.mem_cons] at hother
    rcases hother with hother | rfl | hother
    · simpa [hpass'] using hbefore other hother
    · exact le_refl other
    · exact ((List.pairwise_cons.mp (List.pairwise_append.mp hordered).2.1).1 other hother).le
  refine ⟨hleast, fun hname => ?_⟩
  cases hfind : s.toList.find? p with
  | none =>
    have hfails := List.find?_eq_none.mp hfind name (Std.ExtTreeSet.mem_toList.mpr hname.1.1)
    exact absurd hname.1.2 hfails
  | some first => rw [(hleast hfind).unique hname]

omit [Std.LawfulEqOrd κ] in
/-- The size of a set is the number of its members. -/
theorem card_toFinset [DecidableEq κ] (s : Std.ExtTreeSet κ) : s.toList.toFinset.card = s.size := by
  rw [List.toFinset_card_of_nodup (nodup_toList s), Std.ExtTreeSet.length_toList]

/-- A set that is part of another is not larger. -/
theorem size_le_of_subset {s t : Std.ExtTreeSet κ} (hst : ∀ k ∈ s, k ∈ t) : s.size ≤ t.size := by
  classical
  rw [← card_toFinset s, ← card_toFinset t]
  exact Finset.card_le_card fun k hk => by simpa using hst k (by simpa using hk)

/-- A set that is part of another and not smaller is all of it. -/
theorem subset_of_size_le {s t : Std.ExtTreeSet κ} (hst : ∀ k ∈ s, k ∈ t)
    (hsize : t.size ≤ s.size) : ∀ k ∈ t, k ∈ s := by
  classical
  rw [← card_toFinset s, ← card_toFinset t] at hsize
  have hsubset : s.toList.toFinset ⊆ t.toList.toFinset :=
    fun k hk => by simpa using hst k (by simpa using hk)
  have heq := Finset.eq_of_subset_of_card_le hsubset hsize
  intro k hk
  have : k ∈ t.toList.toFinset := by simpa using hk
  rw [← heq] at this
  simpa using this

/-- The keys of a map as a set. -/
def keySet (m : Std.ExtTreeMap κ α) : Std.ExtTreeSet κ := .ofList m.keys

/-- The members of the set of keys are the keys. -/
theorem mem_keySet (m : Std.ExtTreeMap κ α) (k : κ) : k ∈ keySet m ↔ k ∈ m := by
  rw [keySet, mem_set_ofList, Std.ExtTreeMap.mem_keys]

/-- There are as many keys as entries. -/
theorem size_keySet (m : Std.ExtTreeMap κ α) : (keySet m).size = m.size := by
  have hkeys : (keySet m).toList = m.keys := by
    refine eq_of_ascending Std.ExtTreeSet.ordered_toList Std.ExtTreeMap.ordered_keys fun k => ?_
    rw [Std.ExtTreeSet.mem_toList, mem_keySet, Std.ExtTreeMap.mem_keys]
  rw [← Std.ExtTreeSet.length_toList, hkeys, Std.ExtTreeMap.length_keys]

/-- A map that has all keys of another one and the same size has no other keys. -/
theorem mem_of_size_eq {β : Type} {m : Std.ExtTreeMap κ α} {n : Std.ExtTreeMap κ β}
    (hkeys : ∀ k ∈ n, k ∈ m) (hsize : m.size = n.size) {k : κ} (hk : k ∈ m) : k ∈ n := by
  have hsubset : ∀ k ∈ keySet n, k ∈ keySet m := by
    intro k hk
    rw [mem_keySet] at hk ⊢
    exact hkeys k hk
  have hle : (keySet m).size ≤ (keySet n).size := by rw [size_keySet, size_keySet, hsize]
  have hmem := subset_of_size_le hsubset hle k ((mem_keySet m k).mpr hk)
  exact (mem_keySet n k).mp hmem

end ClassGraph.Ordered
