import ClassGraph.Proofs.Registry.Faults

/-!
# Building a registry

Declarations are well-formed when every base and every role that they name is declared and no type
is above itself (`WellFormed`). Of such declarations a registry can be built, and of no others
(`Tagged.exists_build_iff`), and it holds exactly what is declared, each type with all that its line
of bases gives it (`Registers`). The walk over names that the registry makes for the bases of a type
has no guard against cycles: that it ends rests on what the building has checked.
-/

open Relation

namespace ClassGraph.Declarations

/-- All that is named is declared, and no type is its own proper ancestor. -/
structure WellFormed (d : Declarations) : Prop where
  /-- The base of a type, where it has one, is declared. -/
  base : ∀ {tag : String} {decl : TypeDecl}, d.types[tag]? = some decl →
    ∀ {base : String}, decl.base = some base → base ∈ d.types
  /-- No chain of bases comes back to its start. -/
  acyclic : ∀ {tag : String} {decl : TypeDecl}, d.types[tag]? = some decl →
    ¬ TransGen d.Extends decl decl
  /-- The roles that a type itself carries are declared. -/
  roles : ∀ {tag : String} {decl : TypeDecl}, d.types[tag]? = some decl →
    ∀ role ∈ decl.roles, role ∈ d.roles

/-- A registry holds exactly what is declared, resolved. -/
structure Registers (d : Declarations) (r : Registry) : Prop where
  /-- The types are the declared ones. -/
  mem_types : ∀ tag, tag ∈ r.types ↔ tag ∈ d.types
  /-- The roles are the declared ones. -/
  roles : r.roles = d.roles
  /-- A type keeps its base and whether it has instances, and binds the operations and carries the
  roles of its own declaration and of all above. -/
  resolves : ∀ {tag : String} {decl : TypeDecl}, d.types[tag]? = some decl →
    ∃ type, r.types[tag]? = some type ∧ d.Resolves decl type
  /-- The walk from a name upwards ends, and the bases that are given are all that it meets, nearest
  first. -/
  climbs : ∀ {tag : String} {names : List String}, r.Climbs tag names ↔ r.basesOf tag = names
  /-- No name is met twice. -/
  nodup : ∀ tag, (tag :: r.basesOf tag).Nodup
  /-- The names that are met are those of the proper ancestors. -/
  mem_basesOf : ∀ {tag : String} {decl : TypeDecl}, d.types[tag]? = some decl →
    ∀ name, name ∈ r.basesOf tag ↔
      ∃ above, TransGen d.Extends decl above ∧ d.types[name]? = some above

variable {d : Declarations} {r : Registry} {decl : TypeDecl} {tag : String}

/-- Declarations of which a registry can be built are well-formed. -/
theorem wellFormed_of_build (hr : d.build = .ok r) : d.WellFormed where
  base := by
    intro tag decl hdecl base hbase
    obtain ⟨bases, hascends⟩ := exists_ascends_of_build hr hdecl
    cases hascends with
    | top hnone => simp [hnone] at hbase
    | up hext =>
      obtain ⟨tag', htag', habove⟩ := hext
      obtain rfl := Option.some.inj (hbase.symm.trans htag')
      exact Ordered.mem_of_getElem? habove
  acyclic := by
    intro tag decl hdecl
    obtain ⟨bases, hascends⟩ := exists_ascends_of_build hr hdecl
    exact hascends.not_transGen .refl
  roles := by
    intro tag decl hdecl role hrole
    obtain ⟨bases, hascends⟩ := exists_ascends_of_build hr hdecl
    obtain ⟨type, hresolve⟩ := exists_resolve_of_build hr hdecl
    exact hascends.exists_resolve_iff.mp ⟨type, hresolve⟩ role ⟨decl, .refl, hrole⟩

/-- No type of well-formed declarations has a fault. -/
theorem WellFormed.not_fault (h : d.WellFormed) (hd : d.Tagged) (hdecl : d.types[tag]? = some decl)
    (e : DeclarationError) : ¬ d.Fault decl e := by
  have habove : ∀ {above}, ReflTransGen d.Extends decl above → d.types[above.tag]? = some above :=
    hd.getElem?_of_chain hdecl
  intro hfault
  cases hfault with
  | bases hstrays =>
    cases hstrays with
    | unknownBase hchain hbase hout => exact hout (h.base (habove hchain) hbase)
    | inheritanceCycle hchain hcycle => exact h.acyclic (habove hchain) hcycle
  | unknownRole _ hleast =>
    obtain ⟨⟨above, hchain, hrole⟩, hout⟩ := hleast.1
    exact hout (h.roles (habove hchain) _ hrole)

/-- A registry can be built of well-formed declarations and of no others. -/
theorem Tagged.exists_build_iff (hd : d.Tagged) : (∃ r, d.build = .ok r) ↔ d.WellFormed := by
  refine ⟨fun ⟨r, hr⟩ => wellFormed_of_build hr, fun h => ?_⟩
  exact exists_build fun hdecl => exists_resolve_iff.mpr (h.not_fault hd hdecl)

/-- A registry that could be built holds what is declared. -/
theorem Tagged.registers (hd : d.Tagged) (hr : d.build = .ok r) : d.Registers r where
  mem_types := mem_types_build hr
  roles := roles_build hr
  resolves := exists_type_of_build hr
  climbs := climbs_iff_of_build hd hr
  nodup := by
    intro tag
    cases hdecl : d.types[tag]? with
    | none =>
      rw [basesOf_of_notMem hd hr ((getElem?_eq_none_iff _ _).mp hdecl)]
      exact List.nodup_singleton tag
    | some decl =>
      obtain ⟨bases, hascends⟩ := exists_ascends_of_build hr hdecl
      rw [hascends.basesOf_of_build hd hr hdecl]
      exact hascends.nodup_tags hd hdecl
  mem_basesOf := by
    intro tag decl hdecl name
    obtain ⟨bases, hascends⟩ := exists_ascends_of_build hr hdecl
    rw [hascends.basesOf_of_build hd hr hdecl, List.mem_map]
    refine exists_congr fun above => ?_
    rw [hascends.mem_bases_iff]
    refine and_congr_right fun hchain => ?_
    have habove := hd.getElem?_of_chain hdecl hchain.to_reflTransGen
    exact ⟨fun hname => hname ▸ habove, fun hname => hd hname⟩

/-- Roles and types with different names are all declared. A registry can be built of them exactly
when they are well-formed, and it holds exactly what is declared. -/
theorem build_ofItems {items : List Item} (hdistinct : (items.map Item.key).Nodup) :
    ∃ d, ofItems items = .ok d ∧ d.Records items ∧
      ((∃ r, d.build = .ok r) ↔ d.WellFormed) ∧ ∀ r, d.build = .ok r → d.Registers r := by
  obtain ⟨d, hd⟩ := exists_ofItems_iff.mpr hdistinct
  have hrecords : d.Records items := records_ofItems hd
  have htagged : d.Tagged := hrecords.tagged
  exact ⟨d, hd, hrecords, htagged.exists_build_iff, fun r hr => htagged.registers hr⟩

/-- Boats, and ships, which have no instances of their own and bind what their role requires. -/
def fleet : List Item :=
  let sail : Operation := ⟨"sail", 1⟩
  let ship : TypeDecl := { tag := "Ship", isAbstract := true, operations := .ofList [sail]
                           roles := .ofList ["Crewed"] }
  [.type boat, .role "Crewed" [sail], .type ship]

/-- The fleet is well-formed, and its registry holds it. -/
theorem registers_fleet : (fleet.map Item.key).Nodup ∧ ∃ d r, ofItems fleet = .ok d ∧
    d.build = .ok r ∧ d.WellFormed ∧ d.Registers r ∧ r.basesOf "Boat" = ["Ship"] := by
  have hdistinct : (fleet.map Item.key).Nodup := by decide
  obtain ⟨d, hd, -, hiff, hregisters⟩ := build_ofItems hdistinct
  obtain ⟨d', r, hd', hr, hbases⟩ : ∃ d' r, ofItems fleet = .ok d' ∧ d'.build = .ok r ∧
      r.basesOf "Boat" = ["Ship"] := ⟨_, _, rfl, rfl, rfl⟩
  obtain rfl := Except.ok.inj (hd.symm.trans hd')
  exact ⟨hdistinct, d, r, hd, hr, hiff.mp ⟨r, hr⟩, hregisters r hr, hbases⟩

end ClassGraph.Declarations
