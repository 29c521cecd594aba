import ClassGraph.Registry.Contract
import ClassGraph.Proofs.Registry.Resolution

/-!
# Subtypes

A registry walks over names (`Climbs`) where the declarations from which it was built have a chain
of bases. When it could be built, this walk ends from every name and its bound cuts nothing off
(`climbs_iff_of_build`), since the bases of every declared type end and are all different. So one
type is a subtype of another exactly when a chain of bases leads from its declaration to one of that
name (`isSubtype_iff`).
-/

open Relation

namespace ClassGraph

/-! ## The walk over names -/

/-- What an unbounded walk from a type to its base, to the base of that one and so on meets until
there is none. -/
inductive Registry.Climbs (r : Registry) : String → List String → Prop
  /-- There is no base. -/
  | top {tag : String} : r.types[tag]?.bind (·.base) = none → Climbs r tag []
  /-- The base comes first and its own bases follow. -/
  | up {tag base : String} {names : List String} :
    r.types[tag]?.bind (·.base) = some base → Climbs r base names → Climbs r tag (base :: names)

/-- A walk from a type meets one list of names. -/
theorem Registry.Climbs.unique {r : Registry} {tag : String} {names names' : List String}
    (h : r.Climbs tag names) (h' : r.Climbs tag names') : names = names' := by
  induction h generalizing names' with
  | top hnone =>
    cases h' with
    | top => rfl
    | up hbase => simp [hnone] at hbase
  | up hbase _ ih =>
    cases h' with
    | top hnone => simp [hnone] at hbase
    | up hbase' hrest =>
      obtain rfl := Option.some.inj (hbase.symm.trans hbase')
      rw [ih hrest]

/-- A bound that leaves a step for each base does not cut the walk off. -/
theorem Registry.Climbs.basesWithin {r : Registry} {tag : String} {names : List String}
    (h : r.Climbs tag names) : ∀ {limit : Nat}, names.length ≤ limit →
      r.basesWithin limit r.types[tag]? = names := by
  induction h with
  | top hnone =>
    intro limit _
    cases limit with
    | zero => rfl
    | succ limit => rw [Registry.basesWithin, hnone]
  | @up tag base names hbase _ ih =>
    intro limit hle
    cases limit with
    | zero => exact absurd hle (Nat.not_succ_le_zero names.length)
    | succ limit =>
      rw [Registry.basesWithin, hbase]
      exact congrArg (base :: ·) (ih (Nat.le_of_succ_le_succ hle))

namespace Declarations

variable {d : Declarations} {r : Registry}

/-! ## The walk in a registry that could be built -/

/-- Every type is declared under its own name. -/
def Tagged (d : Declarations) : Prop :=
  ∀ {tag : String} {decl : TypeDecl}, d.types[tag]? = some decl → decl.tag = tag

/-- What a chain of bases leads to is declared under its own name. -/
theorem Tagged.getElem?_of_chain (hd : d.Tagged) {tag : String} {decl above : TypeDecl}
    (hdecl : d.types[tag]? = some decl) (hchain : ReflTransGen d.Extends decl above) :
    d.types[above.tag]? = some above := by
  rcases hchain.cases_tail with rfl | ⟨_, -, tag', -, habove⟩
  · rwa [hd hdecl]
  · rwa [hd habove]

/-- The bases of a registered type end. -/
theorem exists_ascends_of_build (hr : d.build = .ok r) {tag : String} {decl : TypeDecl}
    (hdecl : d.types[tag]? = some decl) : ∃ bases, d.Ascends decl bases := by
  obtain ⟨type, hresolve⟩ := exists_resolve_of_build hr hdecl
  obtain ⟨bases, hbases, -⟩ := Outcome.bind_eq_ok_iff.mp hresolve
  exact ⟨bases, ascends_of_basesOf hbases⟩

/-- The registry climbs to the names of the bases. -/
theorem Ascends.climbs (hd : d.Tagged) (hr : d.build = .ok r) {decl : TypeDecl}
    {bases : List TypeDecl} (h : d.Ascends decl bases) :
    ∀ {tag : String}, d.types[tag]? = some decl → r.Climbs tag (bases.map TypeDecl.tag) := by
  induction h with
  | top hnone =>
    intro tag hdecl
    obtain ⟨type, htype, hresolves⟩ := exists_type_of_build hr hdecl
    exact .top (by rw [htype, Option.bind_some, hresolves.base, hnone])
  | @up decl base bases hext _ ih =>
    intro tag hdecl
    obtain ⟨name, hname, hbase⟩ := hext
    obtain ⟨type, htype, hresolves⟩ := exists_type_of_build hr hdecl
    obtain rfl : base.tag = name := hd hbase
    exact .up (by rw [htype, Option.bind_some, hresolves.base, hname]) (ih hbase)

/-- The names of a line of bases are all different. -/
theorem Ascends.nodup_tags (hd : d.Tagged) {tag : String} {decl : TypeDecl}
    (hdecl : d.types[tag]? = some decl) {bases : List TypeDecl} (h : d.Ascends decl bases) :
    (tag :: bases.map TypeDecl.tag).Nodup := by
  have htag : decl.tag = tag := hd hdecl
  rw [← htag, ← List.map_cons]
  refine h.nodup.map_on fun x hx y hy hxy => ?_
  have hx' := hd.getElem?_of_chain hdecl ((h.mem_iff x).mp hx)
  have hy' := hd.getElem?_of_chain hdecl ((h.mem_iff y).mp hy)
  exact Option.some.inj (hx'.symm.trans (hxy ▸ hy'))

/-- The bound of the walk over names cuts none of the bases off. -/
theorem Ascends.basesOf_of_build (hd : d.Tagged) (hr : d.build = .ok r) {tag : String}
    {decl : TypeDecl} (hdecl : d.types[tag]? = some decl) {bases : List TypeDecl}
    (h : d.Ascends decl bases) : r.basesOf tag = bases.map TypeDecl.tag := by
  refine (h.climbs hd hr hdecl).basesWithin ?_
  have hsubset : bases.map TypeDecl.tag ⊆ r.types.keys := by
    intro name hname
    obtain ⟨base, hbase, rfl⟩ := List.mem_map.mp hname
    have hchain := (h.mem_iff base).mp (List.mem_cons_of_mem decl hbase)
    rw [Std.ExtTreeMap.mem_keys, mem_types_build hr]
    exact Ordered.mem_of_getElem? (hd.getElem?_of_chain hdecl hchain)
  have hnodup : (bases.map TypeDecl.tag).Nodup := (List.nodup_cons.mp (h.nodup_tags hd hdecl)).2
  rw [← Std.ExtTreeMap.length_keys]
  exact (hnodup.subperm hsubset).length_le

/-- There is nothing above a name that is not declared. -/
theorem climbs_of_notMem (hr : d.build = .ok r) {tag : String} (htag : tag ∉ d.types) :
    r.Climbs tag [] := by
  have htype : r.types[tag]? = none := by
    rwa [getElem?_eq_none_iff, mem_types_build hr]
  exact .top (by rw [htype, Option.bind_none])

/-- A registry that could be built climbs from every name, and exactly to the bases that it
gives. -/
theorem climbs_iff_of_build (hd : d.Tagged) (hr : d.build = .ok r) {tag : String}
    {names : List String} : r.Climbs tag names ↔ r.basesOf tag = names := by
  suffices hclimbs : r.Climbs tag (r.basesOf tag) from
    ⟨hclimbs.unique, fun heq => heq ▸ hclimbs⟩
  cases hdecl : d.types[tag]? with
  | none =>
    have htop := climbs_of_notMem hr ((getElem?_eq_none_iff _ _).mp hdecl)
    rwa [Registry.basesOf, htop.basesWithin (Nat.zero_le _)]
  | some decl =>
    obtain ⟨bases, hbases⟩ := exists_ascends_of_build hr hdecl
    rw [hbases.basesOf_of_build hd hr hdecl]
    exact hbases.climbs hd hr hdecl

/-- A type that is not declared has no bases. -/
theorem basesOf_of_notMem (hd : d.Tagged) (hr : d.build = .ok r) {tag : String}
    (htag : tag ∉ d.types) : r.basesOf tag = [] :=
  (climbs_iff_of_build hd hr).mp (climbs_of_notMem hr htag)

/-- The names of the bases of a declared type are those of the declarations to which a chain of
bases leads. -/
theorem mem_basesOf_of_build (hd : d.Tagged) (hr : d.build = .ok r) {tag : String}
    {decl : TypeDecl} (hdecl : d.types[tag]? = some decl) (ancestor : String) :
    ancestor = tag ∨ ancestor ∈ r.basesOf tag ↔
      ∃ above, ReflTransGen d.Extends decl above ∧ above.tag = ancestor := by
  obtain ⟨bases, hbases⟩ := exists_ascends_of_build hr hdecl
  rw [hbases.basesOf_of_build hd hr hdecl, List.mem_map]
  simp only [← hbases.mem_iff, List.mem_cons, or_and_right, exists_or, exists_eq_left, hd hdecl,
    eq_comm (a := ancestor)]

/-! ## Subtypes -/

/-- A type is a subtype of another when a chain of bases leads from its declaration to one of that
name. -/
theorem isSubtype_iff (hd : d.Tagged) (hr : d.build = .ok r) {tag ancestor : String} :
    r.isSubtype tag ancestor = true ↔ ∃ decl above, d.types[tag]? = some decl ∧
      ReflTransGen d.Extends decl above ∧ above.tag = ancestor := by
  unfold Registry.isSubtype
  rw [Bool.or_eq_true, Bool.and_eq_true, beq_iff_eq, List.contains_iff_mem,
    ← Std.ExtTreeMap.mem_iff_contains, mem_types_build hr]
  cases hdecl : d.types[tag]? with
  | none =>
    -- An unknown type has neither itself nor any other as a base.
    have htag : tag ∉ d.types := (getElem?_eq_none_iff _ _).mp hdecl
    simp [htag, basesOf_of_notMem hd hr htag]
  | some decl =>
    have htag : tag ∈ d.types := Ordered.mem_of_getElem? hdecl
    rw [and_iff_left htag, eq_comm (a := tag), mem_basesOf_of_build hd hr hdecl]
    simp only [Option.some.injEq, exists_and_left, exists_eq_left']

end Declarations

end ClassGraph
