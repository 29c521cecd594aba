import ClassGraph.Proofs.Registry.Building
import ClassGraph.Proofs.Registry.Instance

/-!
# Subtyping as an order

In a registry that could be built, subtyping is a partial order on the registered names, because
chains of bases can be put together and never come back. A subtype binds at least the operations of
its supertypes (`operations_of_isSubtype`), which links the chain that is walked for a query to the
operations that were collected when the registry was built. So of any role it has no more operations
missing, and it can carry each role that one of its supertypes can.
-/

open Relation

namespace ClassGraph.Declarations

variable {d : Declarations} {r : Registry} {tag ancestor : String}

/-- Subtyping is a chain of bases between the two declarations. -/
theorem isSubtype_iff_exists_chain (hd : d.Tagged) (hr : d.build = .ok r) :
    r.isSubtype tag ancestor = true ↔ ∃ decl above, d.types[tag]? = some decl ∧
      d.types[ancestor]? = some above ∧ ReflTransGen d.Extends decl above := by
  rw [isSubtype_iff hd hr]
  refine exists_congr fun decl => exists_congr fun above => and_congr_right fun hdecl => ?_
  constructor
  · rintro ⟨hchain, rfl⟩
    exact ⟨hd.getElem?_of_chain hdecl hchain, hchain⟩
  · exact fun ⟨habove, hchain⟩ => ⟨hchain, hd habove⟩

/-- A type is a subtype of itself exactly when it is registered. -/
theorem isSubtype_self_iff (hd : d.Tagged) (hr : d.build = .ok r) :
    r.isSubtype tag tag = true ↔ tag ∈ r.types := by
  rw [isSubtype_iff_exists_chain hd hr, mem_types_build hr, Ordered.mem_iff_exists]
  constructor
  · exact fun ⟨decl, _, hdecl, _⟩ => ⟨decl, hdecl⟩
  · exact fun ⟨decl, hdecl⟩ => ⟨decl, decl, hdecl, hdecl, .refl⟩

/-- What is below something below a type is below this type. -/
theorem isSubtype_trans (hd : d.Tagged) (hr : d.build = .ok r) {middle : String}
    (h : r.isSubtype tag middle = true) (h' : r.isSubtype middle ancestor = true) :
    r.isSubtype tag ancestor = true := by
  rw [isSubtype_iff_exists_chain hd hr] at h h' ⊢
  obtain ⟨decl, base, hdecl, hbase, hchain⟩ := h
  obtain ⟨base', above, hbase', habove, hchain'⟩ := h'
  obtain rfl := Option.some.inj (hbase.symm.trans hbase')
  exact ⟨decl, above, hdecl, habove, hchain.trans hchain'⟩

/-- Two types that are subtypes of each other are one, since chains of bases do not come back. -/
theorem isSubtype_antisymm (hd : d.Tagged) (hr : d.build = .ok r)
    (h : r.isSubtype tag ancestor = true) (h' : r.isSubtype ancestor tag = true) :
    tag = ancestor := by
  rw [isSubtype_iff_exists_chain hd hr] at h h'
  obtain ⟨decl, above, hdecl, habove, hchain⟩ := h
  obtain ⟨above', decl', habove', hdecl', hchain'⟩ := h'
  obtain rfl := Option.some.inj (hdecl.symm.trans hdecl')
  obtain rfl := Option.some.inj (habove.symm.trans habove')
  rcases reflTransGen_iff_eq_or_transGen.mp hchain with rfl | hstrict
  · rw [← hd hdecl, hd habove]
  · obtain ⟨bases, hascends⟩ := exists_ascends_of_build hr hdecl
    exact absurd (hstrict.trans_left hchain') (hascends.not_transGen .refl)

/-- Only registered types are subtypes, and only of registered types. -/
theorem mem_types_of_isSubtype (hd : d.Tagged) (hr : d.build = .ok r)
    (h : r.isSubtype tag ancestor = true) : tag ∈ r.types ∧ ancestor ∈ r.types := by
  obtain ⟨decl, above, hdecl, habove, -⟩ := (isSubtype_iff_exists_chain hd hr).mp h
  rw [mem_types_build hr, mem_types_build hr]
  exact ⟨Ordered.mem_of_getElem? hdecl, Ordered.mem_of_getElem? habove⟩

/-! ## Contracts -/

/-- A subtype binds the operations that its supertypes bind. -/
theorem operations_of_isSubtype (hd : d.Tagged) (hr : d.build = .ok r)
    (h : r.isSubtype tag ancestor = true) : ∃ type above, r.types[tag]? = some type ∧
      r.types[ancestor]? = some above ∧ ∀ op ∈ above.operations, op ∈ type.operations := by
  obtain ⟨decl, base, hdecl, hbase, hchain⟩ := (isSubtype_iff_exists_chain hd hr).mp h
  obtain ⟨type, htype, hresolves⟩ := exists_type_of_build hr hdecl
  obtain ⟨above, habove, hresolves'⟩ := exists_type_of_build hr hbase
  refine ⟨type, above, htype, habove, fun op hop => ?_⟩
  obtain ⟨higher, hhigher, hop⟩ := (hresolves'.operations op).mp hop
  exact (hresolves.operations op).mpr ⟨higher, hchain.trans hhigher, hop⟩

/-- Of a role a subtype has only operations missing that its supertypes have missing as well. -/
theorem missing_sublist_of_isSubtype (hd : d.Tagged) (hr : d.build = .ok r)
    (h : r.isSubtype tag ancestor = true) {role : String} (hrole : role ∈ r.roles) :
    ∃ own above, r.missing tag role = .ok own ∧ r.missing ancestor role = .ok above ∧
      own.Sublist above := by
  obtain ⟨type, base, htype, hbase, hsubset⟩ := operations_of_isSubtype hd hr h
  obtain ⟨contract, hcontract⟩ := (Ordered.mem_iff_exists _ _).mp hrole
  refine ⟨_, _, (Registry.missing_eq_ok_iff htype).mpr ⟨contract, hcontract, rfl⟩,
    (Registry.missing_eq_ok_iff hbase).mpr ⟨contract, hcontract, rfl⟩, ?_⟩
  refine List.monotone_filter_right _ fun op hop => ?_
  simp only [TypeDef.binds, Bool.not_eq_true', ← Bool.not_eq_true,
    Std.ExtTreeSet.contains_iff_mem] at hop ⊢
  exact fun hmem => hop (hsubset op hmem)

/-- A subtype can carry each role that one of its supertypes can. -/
theorem checkRole_of_isSubtype (hd : d.Tagged) (hr : d.build = .ok r)
    (h : r.isSubtype tag ancestor = true) {role : String}
    (hrole : r.checkRole ancestor role = .ok ()) : r.checkRole tag role = .ok () := by
  obtain ⟨type, base, htype, hbase, hsubset⟩ := operations_of_isSubtype hd hr h
  rw [Registry.checkRole_eq_ok_iff htype]
  obtain ⟨contract, hcontract, hbinds⟩ := (Registry.checkRole_eq_ok_iff hbase).mp hrole
  exact ⟨contract, hcontract, fun op hop => hsubset op (hbinds op hop)⟩

/-! ## The main result -/

/-- In a registry that could be built, subtyping is a partial order on the registered names, and
holds of no others. A subtype leaves at most those operations of a role unbound that its supertype
does, in the same order, and can carry each role that this one can. -/
theorem ofItems_isSubtype {items : List Item} (hd : ofItems items = .ok d) (hr : d.build = .ok r) :
    (∀ tag, r.isSubtype tag tag = true ↔ tag ∈ r.types) ∧
    (∀ tag middle ancestor, r.isSubtype tag middle = true →
      r.isSubtype middle ancestor = true → r.isSubtype tag ancestor = true) ∧
    (∀ tag ancestor, r.isSubtype tag ancestor = true →
      r.isSubtype ancestor tag = true → tag = ancestor) ∧
    (∀ tag ancestor, tag ∉ r.types ∨ ancestor ∉ r.types → r.isSubtype tag ancestor = false) ∧
    (∀ tag ancestor, r.isSubtype tag ancestor = true → ∀ role ∈ r.roles,
      ∃ own above, r.missing tag role = .ok own ∧ r.missing ancestor role = .ok above ∧
        own.Sublist above) ∧
    ∀ tag ancestor, r.isSubtype tag ancestor = true → ∀ role,
      r.checkRole ancestor role = .ok () → r.checkRole tag role = .ok () := by
  have htagged : d.Tagged := (records_ofItems hd).tagged
  refine ⟨fun tag => isSubtype_self_iff htagged hr,
    fun tag middle ancestor => isSubtype_trans htagged hr,
    fun tag ancestor => isSubtype_antisymm htagged hr, fun tag ancestor hout => ?_,
    fun tag ancestor h role => missing_sublist_of_isSubtype htagged hr h,
    fun tag ancestor h role => checkRole_of_isSubtype htagged hr h⟩
  rw [← Bool.not_eq_true]
  intro h
  obtain ⟨htag, hancestor⟩ := mem_types_of_isSubtype htagged hr h
  exact hout.elim (fun h => h htag) fun h => h hancestor

/-- Boats can be crewed, since ships can. -/
theorem isSubtype_fleet : ∃ d r, ofItems fleet = .ok d ∧ d.build = .ok r ∧
    r.isSubtype "Boat" "Ship" = true ∧ r.isSubtype "Ship" "Boat" = false ∧
    r.isSubtype "Boat" "Raft" = false ∧ r.checkRole "Boat" "Crewed" = .ok () := by
  obtain ⟨d, r, hd, hr, hbelow, habove, houtside, hship⟩ : ∃ d r, ofItems fleet = .ok d ∧
      d.build = .ok r ∧ r.isSubtype "Boat" "Ship" = true ∧ r.isSubtype "Ship" "Boat" = false ∧
      "Raft" ∉ r.types ∧ r.checkRole "Ship" "Crewed" = .ok () :=
    ⟨_, _, rfl, rfl, rfl, rfl, by decide, rfl⟩
  obtain ⟨-, -, -, hnone, -, hcarries⟩ := ofItems_isSubtype hd hr
  exact ⟨d, r, hd, hr, hbelow, habove, hnone "Boat" "Raft" (.inr houtside),
    hcarries "Boat" "Ship" hbelow "Crewed" hship⟩

end ClassGraph.Declarations
