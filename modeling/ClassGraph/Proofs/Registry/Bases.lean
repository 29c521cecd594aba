import ClassGraph.Registry.Basic
import ClassGraph.Proofs.Acyclic
import ClassGraph.Proofs.Ordered
import ClassGraph.Proofs.Outcome

/-!
# The bases of a declaration

The bases above a declaration end with one that has none (`Ascends`), or they do not: one of them
names a base that is not declared, or they run into a cycle (`Strays`). A declaration has at most
one base, so that only one of this can be the case. The bounded walk finds out which: it gives the
bases when they end (`basesOf_eq_ok_iff`) and otherwise says what is the matter
(`basesOf_eq_error_iff`), since beyond its limit it has met one of the declarations twice.
-/

open Relation

namespace ClassGraph.Declarations

/-- A declared type names another as its base. -/
def Extends (d : Declarations) (decl base : TypeDecl) : Prop :=
  ∃ tag, decl.base = some tag ∧ d.types[tag]? = some base

/-- The bases above a declaration, nearest first, up to one that has none. -/
inductive Ascends (d : Declarations) : TypeDecl → List TypeDecl → Prop
  /-- There is no base. -/
  | top {decl : TypeDecl} : decl.base = none → Ascends d decl []
  /-- The base comes first and its own bases follow. -/
  | up {decl base : TypeDecl} {bases : List TypeDecl} :
    d.Extends decl base → Ascends d base bases → Ascends d decl (base :: bases)

/-- Why the bases above a declaration do not end. -/
inductive Strays (d : Declarations) (decl : TypeDecl) : DeclarationError → Prop
  /-- The declaration, or one above it, names a base that is not declared. -/
  | unknownBase {above : TypeDecl} {base : String} : ReflTransGen d.Extends decl above →
    above.base = some base → base ∉ d.types → Strays d decl (.unknownBase above.tag base)
  /-- The declaration, or one above it, is above itself. -/
  | inheritanceCycle {above : TypeDecl} : ReflTransGen d.Extends decl above →
    TransGen d.Extends above above → Strays d decl (.inheritanceCycle decl.tag)

variable {d : Declarations} {decl : TypeDecl} {bases : List TypeDecl} {e : DeclarationError}

/-- A declaration has at most one base. -/
theorem Extends.unique {d : Declarations} {decl base base' : TypeDecl}
    (h : d.Extends decl base) (h' : d.Extends decl base') : base = base' := by
  obtain ⟨tag, htag, hbase⟩ := h
  obtain ⟨tag', htag', hbase'⟩ := h'
  obtain rfl := Option.some.inj (htag.symm.trans htag')
  exact Option.some.inj (hbase.symm.trans hbase')

/-- A declaration extends one other at most. -/
theorem rightUnique_extends (d : Declarations) : Relator.RightUnique d.Extends :=
  fun _ _ _ h h' => h.unique h'

/-- Nothing is above a declaration without a base. -/
theorem not_extends_of_base_eq_none (h : decl.base = none) (base : TypeDecl) :
    ¬ d.Extends decl base := by
  rintro ⟨tag, htag, -⟩
  simp [h] at htag

/-- Nothing is above a declaration whose base is not declared. -/
theorem not_extends_of_notMem {tag : String} (hbase : decl.base = some tag) (htag : tag ∉ d.types)
    (base : TypeDecl) : ¬ d.Extends decl base := by
  rintro ⟨tag', htag', hdecl⟩
  obtain rfl := Option.some.inj (hbase.symm.trans htag')
  exact htag (Ordered.mem_of_getElem? hdecl)

/-- The bases of a declaration are what a chain of bases leads to. -/
theorem Ascends.mem_iff (h : d.Ascends decl bases) (above : TypeDecl) :
    above ∈ decl :: bases ↔ ReflTransGen d.Extends decl above := by
  induction h with
  | @top decl hnone =>
    rw [List.mem_singleton, ReflTransGen.cases_head_iff, eq_comm, or_iff_left]
    rintro ⟨base, hext, -⟩
    exact not_extends_of_base_eq_none hnone base hext
  | @up decl base bases hext _ ih =>
    rw [List.mem_cons, ih, eq_comm, ReflTransGen.cases_head_iff (a := decl)]
    refine or_congr_right ⟨fun habove => ⟨base, hext, habove⟩, ?_⟩
    rintro ⟨base', hext', habove⟩
    exact hext.unique hext' ▸ habove

/-- The bases above a declaration are what at least one step leads to. -/
theorem Ascends.mem_bases_iff (h : d.Ascends decl bases) (above : TypeDecl) :
    above ∈ bases ↔ TransGen d.Extends decl above := by
  rw [TransGen.head'_iff]
  cases h with
  | top hnone =>
    refine iff_of_false List.not_mem_nil ?_
    rintro ⟨base, hext, -⟩
    exact not_extends_of_base_eq_none hnone base hext
  | @up _ base _ hext hrest =>
    rw [hrest.mem_iff]
    refine ⟨fun habove => ⟨base, hext, habove⟩, ?_⟩
    rintro ⟨base', hext', habove⟩
    exact hext.unique hext' ▸ habove

/-- Above a declaration with its bases there is one without a base. -/
theorem Ascends.exists_top (h : d.Ascends decl bases) :
    ∃ top, ReflTransGen d.Extends decl top ∧ top.base = none := by
  induction h with
  | @top decl hnone => exact ⟨decl, .refl, hnone⟩
  | up hext _ ih =>
    obtain ⟨top, hchain, hnone⟩ := ih
    exact ⟨top, hchain.head hext, hnone⟩

/-- A declaration has one list of bases. -/
theorem Ascends.unique {bases' : List TypeDecl} (h : d.Ascends decl bases)
    (h' : d.Ascends decl bases') : bases = bases' := by
  induction h generalizing bases' with
  | top hnone =>
    cases h' with
    | top => rfl
    | up hext => exact absurd hext (not_extends_of_base_eq_none hnone _)
  | up hext _ ih =>
    cases h' with
    | top hnone => exact absurd hext (not_extends_of_base_eq_none hnone _)
    | up hext' hrest =>
      obtain rfl := hext.unique hext'
      rw [ih hrest]

/-- The bases of a base end as well. -/
theorem Ascends.of_chain (h : d.Ascends decl bases) {above : TypeDecl}
    (hchain : ReflTransGen d.Extends decl above) : ∃ more, d.Ascends above more := by
  induction hchain with
  | refl => exact ⟨bases, h⟩
  | tail _ hext ih =>
    obtain ⟨more, hmore⟩ := ih
    cases hmore with
    | top hnone => exact absurd hext (not_extends_of_base_eq_none hnone _)
    | up hext' hrest => exact ⟨_, hext.unique hext' ▸ hrest⟩

/-- Bases that end have no cycle. -/
theorem Ascends.not_transGen (h : d.Ascends decl bases) {above : TypeDecl}
    (hchain : ReflTransGen d.Extends decl above) : ¬ TransGen d.Extends above above := by
  obtain ⟨top, htop, hnone⟩ := h.exists_top
  exact not_transGen_of_end (rightUnique_extends d) htop (not_extends_of_base_eq_none hnone) hchain

/-- Bases that end are all different. -/
theorem Ascends.nodup (h : d.Ascends decl bases) : (decl :: bases).Nodup := by
  induction h with
  | top => exact List.nodup_singleton _
  | @up decl base bases hext hrest ih =>
    refine List.nodup_cons.mpr ⟨fun hmem => ?_, ih⟩
    -- A declaration among its own bases is on a cycle.
    have hcycle : TransGen d.Extends decl decl := TransGen.head' hext ((hrest.mem_iff decl).mp hmem)
    exact (Ascends.up hext hrest).not_transGen .refl hcycle

/-- Bases that end do not stray. -/
theorem Ascends.not_strays (h : d.Ascends decl bases) : ¬ d.Strays decl e := by
  rintro (⟨habove, hbase, hout⟩ | ⟨habove, hcycle⟩)
  · obtain ⟨top, htop, hnone⟩ := h.exists_top
    obtain rfl := eq_of_end (rightUnique_extends d) htop (not_extends_of_base_eq_none hnone) habove
      (not_extends_of_notMem hbase hout)
    simp [hnone] at hbase
  · exact h.not_transGen habove hcycle

/-- Bases stray in one way only. -/
theorem Strays.unique {e' : DeclarationError} (h : d.Strays decl e) (h' : d.Strays decl e') :
    e = e' := by
  have hr := rightUnique_extends d
  cases h with
  | unknownBase habove hbase hout =>
    have hend := not_extends_of_notMem hbase hout
    cases h' with
    | unknownBase habove' hbase' hout' =>
      obtain rfl := eq_of_end hr habove hend habove' (not_extends_of_notMem hbase' hout')
      rw [Option.some.inj (hbase.symm.trans hbase')]
    | inheritanceCycle habove' hcycle =>
      exact absurd hcycle (not_transGen_of_end hr habove hend habove')
  | inheritanceCycle habove hcycle =>
    cases h' with
    | unknownBase habove' hbase hout =>
      have hend := not_extends_of_notMem hbase hout
      exact absurd hcycle (not_transGen_of_end hr habove' hend habove)
    | inheritanceCycle => rfl

/-! ## The walk -/

/-- What a walk has found is all the bases. -/
theorem ascends_of_basesWithin {start : String} (limit : Nat) (decl : TypeDecl) :
    ∀ {bases : List TypeDecl}, d.basesWithin start limit decl = .ok bases →
      d.Ascends decl bases := by
  -- The cases of the walk: no base, two in which it fails, and a step to the base.
  fun_induction basesWithin d start limit decl with
  | case1 limit decl hnone =>
    rintro _ ⟨⟩
    exact .top hnone
  | case2 => rintro _ ⟨⟩
  | case3 => rintro _ ⟨⟩
  | case4 decl tag hsome base hbase limit ih =>
    intro bases hb
    obtain ⟨more, hmore, rfl⟩ := Outcome.map_eq_ok_iff.mp hb
    exact .up ⟨tag, hsome, hbase⟩ (ih hmore)

/-- The bases that are found are those above the declaration. -/
theorem ascends_of_basesOf (h : d.basesOf decl = .ok bases) : d.Ascends decl bases :=
  ascends_of_basesWithin _ _ h

/-- A walk fails at a base that is not declared, or when there are more bases than its limit. -/
theorem of_basesWithin_eq_error {start : String} (limit : Nat) (decl : TypeDecl)
    (h : d.basesWithin start limit decl = .error e) :
    (∃ above base, ReflTransGen d.Extends decl above ∧ above.base = some base ∧
      base ∉ d.types ∧ e = .unknownBase above.tag base) ∨
    e = .inheritanceCycle start ∧
      ∃ bases : List TypeDecl, bases.length = limit + 1 ∧ (decl :: bases).IsChain d.Extends := by
  fun_induction basesWithin d start limit decl with
  | case1 => cases h
  | case2 limit decl tag hsome hnone =>
    have hout : tag ∉ d.types := (getElem?_eq_none_iff _ _).mp hnone
    exact .inl ⟨decl, tag, .refl, hsome, hout, (Except.error.inj h).symm⟩
  | case3 decl tag hsome base hbase =>
    refine .inr ⟨(Except.error.inj h).symm, [base], rfl, ?_⟩
    exact List.isChain_cons_cons.mpr ⟨⟨tag, hsome, hbase⟩, .singleton base⟩
  | case4 decl tag hsome base hbase limit ih =>
    have hext : d.Extends decl base := ⟨tag, hsome, hbase⟩
    rcases ih (Outcome.map_eq_error_iff.mp h) with ⟨above, tag', habove, hrest⟩ |
      ⟨he, bases, hlength, hchain⟩
    · exact .inl ⟨above, tag', habove.head hext, hrest⟩
    · refine .inr ⟨he, base :: bases, by rw [List.length_cons, hlength], ?_⟩
      exact List.isChain_cons_cons.mpr ⟨hext, hchain⟩

/-- The walk to the bases fails in the way in which they stray. -/
theorem strays_of_basesOf (h : d.basesOf decl = .error e) : d.Strays decl e := by
  rcases of_basesWithin_eq_error _ _ h with ⟨above, tag, habove, hbase, hout, rfl⟩ |
    ⟨rfl, bases, hlength, hchain⟩
  · exact .unknownBase habove hbase hout
  · -- More bases than there are declarations come back.
    have htargets : ∀ x y, d.Extends x y → y ∈ d.types.toList.map Prod.snd := by
      rintro x y ⟨tag, -, hy⟩
      exact List.mem_map.mpr ⟨(tag, y), Std.ExtTreeMap.mem_toList_iff_getElem?_eq_some.mpr hy, rfl⟩
    have hlt : (d.types.toList.map Prod.snd).length < bases.length := by
      rw [List.length_map, Std.ExtTreeMap.length_toList, hlength]
      omega
    obtain ⟨above, habove, hcycle⟩ := exists_cycle_of_isChain htargets hchain hlt
    exact .inheritanceCycle habove hcycle

/-- The walk gives the bases exactly when they end. -/
theorem basesOf_eq_ok_iff : d.basesOf decl = .ok bases ↔ d.Ascends decl bases := by
  refine ⟨ascends_of_basesOf, fun h => ?_⟩
  cases hwalk : d.basesOf decl with
  | error e => exact absurd (strays_of_basesOf hwalk) h.not_strays
  | ok bases' => rw [h.unique (ascends_of_basesOf hwalk)]

/-- The walk fails exactly when the bases stray, and says how. -/
theorem basesOf_eq_error_iff : d.basesOf decl = .error e ↔ d.Strays decl e := by
  refine ⟨strays_of_basesOf, fun h => ?_⟩
  cases hwalk : d.basesOf decl with
  | error e' => rw [(strays_of_basesOf hwalk).unique h]
  | ok bases => exact absurd h (ascends_of_basesOf hwalk).not_strays

end ClassGraph.Declarations
