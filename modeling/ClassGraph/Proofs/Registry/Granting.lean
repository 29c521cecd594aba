import ClassGraph.Proofs.Registry.Instance
import ClassGraph.Proofs.Registry.Resolution

/-!
# Which instances are granted

An instance of a declared type is to carry the roles that are asked for and those that its line of
bases declares (`Wants`), and of each the line has to bind all operations (`Meets`). What stands
against an instance is that its type is not declared, that it has no instances, or the least role
that is wanted and not met (`Refuses`). A registry decides by the sets that were collected when it
was built, but its verdict is the one that the declarations give (`rolesOfInstance_eq_ok_iff`,
`rolesOfInstance_eq_error_iff`).
-/

open Relation

namespace ClassGraph

/-- An operation comes before another by its name, and before one of its name by its arity. -/
def Operation.Before (op other : Operation) : Prop :=
  op.name < other.name ∨ op.name = other.name ∧ op.arity < other.arity

/-- The order of operations is that of their names and arities. -/
theorem Operation.compare_eq_lt_iff {op other : Operation} :
    compare op other = .lt ↔ op.Before other := by
  change (compare op.name other.name).then (compare op.arity other.arity) = .lt ↔ _
  rw [Ordering.then_eq_lt, compare_lt_iff_lt, compare_lt_iff_lt,
    Std.LawfulEqOrd.compare_eq_iff_eq, Operation.Before]

namespace Declarations

/-- An instance of the type with these further roles is to carry the role. -/
def Wants (d : Declarations) (decl : TypeDecl) (requested : List String) (role : String) : Prop :=
  role ∈ requested ∨ d.Carries decl role

/-- The role is declared, and the type and its bases bind all operations that it requires. -/
def Meets (d : Declarations) (decl : TypeDecl) (role : String) : Prop :=
  ∃ contract, d.roles[role]? = some contract ∧ ∀ op ∈ contract.required, d.Binds decl op

/-- An instance of a type with these further roles can be made. -/
structure Admits (d : Declarations) (tag : String) (requested : List String) (decl : TypeDecl) :
    Prop where
  /-- The type is declared. -/
  declared : d.types[tag]? = some decl
  /-- It has instances of its own. -/
  concrete : decl.isAbstract = false
  /-- All roles that are wanted are met. -/
  meets : ∀ role, d.Wants decl requested role → d.Meets decl role

/-- What stands against one role of the instances of a type. -/
inductive Denies (d : Declarations) (decl : TypeDecl) (tag role : String) : ContractError → Prop
  /-- The role is not declared. -/
  | unknownRole : role ∉ d.roles → Denies d decl tag role (.unknownRole role)
  /-- It requires operations that are bound nowhere on the line of bases. These are all of them, in
  their order. -/
  | unbound {contract : Role} {missing : List Operation} : d.roles[role]? = some contract →
    missing ≠ [] → missing.Pairwise Operation.Before →
      (∀ op, op ∈ missing ↔ op ∈ contract.required ∧ ¬ d.Binds decl op) →
        Denies d decl tag role (.unbound tag role missing)

/-- What stands against an instance of a type. -/
inductive Refuses (d : Declarations) (tag : String) (requested : List String) :
    ContractError → Prop
  /-- The type is not declared. -/
  | unknownType : tag ∉ d.types → Refuses d tag requested (.unknownType tag)
  /-- The type has no instances of its own. -/
  | abstractType {decl : TypeDecl} : d.types[tag]? = some decl → decl.isAbstract = true →
    Refuses d tag requested (.abstractType tag)
  /-- There are roles that are wanted and not met, and the least of them is denied. -/
  | role {decl : TypeDecl} {role : String} {e : ContractError} : d.types[tag]? = some decl →
    decl.isAbstract = false →
    IsLeast {role | d.Wants decl requested role ∧ ¬ d.Meets decl role} role →
      d.Denies decl tag role e → Refuses d tag requested e

variable {d : Declarations} {r : Registry} {decl : TypeDecl} {type : TypeDef} {tag role : String}
  {requested : List String} {e : ContractError}

/-- The roles of an instance are those that it is wanted to carry. -/
theorem Resolves.mem_allRoles_iff (h : d.Resolves decl type) :
    role ∈ Registry.allRoles type requested ↔ d.Wants decl requested role := by
  rw [Registry.mem_allRoles, or_comm]
  exact or_congr_right (h.roles role)

/-- A resolved type fulfils a role when its declaration meets it. -/
theorem Resolves.fulfils_iff (h : d.Resolves decl type) (hr : d.build = .ok r) :
    r.Fulfils type role ↔ d.Meets decl role := by
  unfold Registry.Fulfils
  rw [roles_build hr]
  exact exists_congr fun contract => and_congr_right fun _ =>
    forall₂_congr fun op _ => h.operations op

/-- Of a registered type, a role has those operations missing that it requires and that are bound
nowhere on the line of bases. -/
theorem Resolves.mem_missing_iff (h : d.Resolves decl type) {contract : Role} {op : Operation} :
    op ∈ (contract.required.toList.filter fun op => !type.binds op) ↔
      op ∈ contract.required ∧ ¬ d.Binds decl op := by
  rw [List.mem_filter, Std.ExtTreeSet.mem_toList, Bool.not_eq_true', ← Bool.not_eq_true]
  refine and_congr_right fun _ => not_congr ?_
  rw [TypeDef.binds, Std.ExtTreeSet.contains_iff_mem]
  exact h.operations op

/-- A registry denies a role to a type exactly when the declarations do. -/
theorem checkRole_eq_error_iff (hr : d.build = .ok r) (hdecl : d.types[tag]? = some decl) :
    r.checkRole tag role = .error e ↔ d.Denies decl tag role e := by
  obtain ⟨type, htype, hresolves⟩ := exists_type_of_build hr hdecl
  rw [Registry.checkRole_eq_error_iff htype]
  simp only [Registry.missing_eq_ok_iff htype]
  rw [roles_build hr]
  constructor
  · rintro (⟨hout, rfl⟩ | ⟨missing, ⟨contract, hcontract, rfl⟩, hsome, rfl⟩)
    · exact .unknownRole hout
    · refine .unbound hcontract hsome ?_ fun op => hresolves.mem_missing_iff
      exact (Std.ExtTreeSet.ordered_toList.filter _).imp Operation.compare_eq_lt_iff.mp
  · rintro (hout | ⟨hcontract, hsome, hordered, hmem⟩)
    · exact .inl ⟨hout, rfl⟩
    · refine .inr ⟨_, ⟨_, hcontract, ?_⟩, hsome, rfl⟩
      -- Both lists are in order, and so are fixed by their members.
      apply Ordered.eq_of_ascending (hordered.imp Operation.compare_eq_lt_iff.mpr)
        (Std.ExtTreeSet.ordered_toList.filter _)
      exact fun op => (hmem op).trans hresolves.mem_missing_iff.symm

/-- A registry grants an instance exactly those that the declarations admit, with the roles that are
wanted. -/
theorem rolesOfInstance_eq_ok_iff (hr : d.build = .ok r) {roles : NameSet} :
    r.rolesOfInstance tag requested = .ok roles ↔
      ∃ decl, d.Admits tag requested decl ∧ ∀ role, role ∈ roles ↔ d.Wants decl requested role := by
  constructor
  · intro h
    obtain ⟨type, htype, hconcrete⟩ := Registry.exists_type_of_rolesOfInstance h
    obtain ⟨decl, hdecl, hresolve⟩ := (getElem?_types_build hr).mp htype
    have hresolves := resolves_of_resolve hresolve
    obtain ⟨rfl, hfulfils⟩ := (Registry.rolesOfInstance_eq_ok_iff htype hconcrete).mp h
    refine ⟨decl, ⟨hdecl, hresolves.isAbstract.symm.trans hconcrete, fun role hrole => ?_⟩,
      fun role => hresolves.mem_allRoles_iff⟩
    exact (hresolves.fulfils_iff hr).mp (hfulfils role (hresolves.mem_allRoles_iff.mpr hrole))
  · rintro ⟨decl, h, hroles⟩
    obtain ⟨type, htype, hresolves⟩ := exists_type_of_build hr h.declared
    have hconcrete := hresolves.isAbstract.trans h.concrete
    refine (Registry.rolesOfInstance_eq_ok_iff htype hconcrete).mpr ⟨?_, fun role hrole => ?_⟩
    · exact Std.ExtTreeSet.ext_mem fun role => (hroles role).trans hresolves.mem_allRoles_iff.symm
    · exact (hresolves.fulfils_iff hr).mpr (h.meets role ((hroles role).mp hrole))

/-- A registry grants an instance exactly when the declarations admit one. -/
theorem exists_rolesOfInstance_iff (hr : d.build = .ok r) :
    (∃ roles, r.rolesOfInstance tag requested = .ok roles) ↔
      ∃ decl, d.Admits tag requested decl := by
  simp only [rolesOfInstance_eq_ok_iff hr]
  constructor
  · exact fun ⟨_, decl, h, _⟩ => ⟨decl, h⟩
  · rintro ⟨decl, h⟩
    obtain ⟨type, -, hresolves⟩ := exists_type_of_build hr h.declared
    exact ⟨Registry.allRoles type requested, decl, h, fun role => hresolves.mem_allRoles_iff⟩

/-- A registry refuses an instance for what stands against it. -/
theorem Refuses.rolesOfInstance (h : d.Refuses tag requested e) (hr : d.build = .ok r) :
    r.rolesOfInstance tag requested = .error e := by
  cases h with
  | unknownType hout =>
    have htype : r.types[tag]? = none := by
      rwa [getElem?_eq_none_iff, mem_types_build hr]
    unfold Registry.rolesOfInstance
    rw [htype]
  | abstractType hdecl habstract =>
    obtain ⟨type, htype, hresolves⟩ := exists_type_of_build hr hdecl
    unfold Registry.rolesOfInstance
    simp only [htype, hresolves.isAbstract.trans habstract, if_true]
  | role hdecl hconcrete hleast hdenies =>
    obtain ⟨type, htype, hresolves⟩ := exists_type_of_build hr hdecl
    rw [Registry.rolesOfInstance_eq_error_iff htype (hresolves.isAbstract.trans hconcrete)]
    refine ⟨_, ?_, (checkRole_eq_error_iff hr hdecl).mpr hdenies⟩
    simpa only [hresolves.mem_allRoles_iff, hresolves.fulfils_iff hr] using hleast

/-- A registry refuses an instance exactly when the declarations do. -/
theorem rolesOfInstance_eq_error_iff (hr : d.build = .ok r) :
    r.rolesOfInstance tag requested = .error e ↔ d.Refuses tag requested e := by
  refine ⟨fun h => ?_, fun h => h.rolesOfInstance hr⟩
  -- Only one thing is reported, so that whatever stands against the instance is that.
  have hsame : ∀ {e' : ContractError}, d.Refuses tag requested e' → d.Refuses tag requested e :=
    fun h' => Except.error.inj ((h'.rolesOfInstance hr).symm.trans h) ▸ h'
  cases hdecl : d.types[tag]? with
  | none => exact hsame (.unknownType ((getElem?_eq_none_iff _ _).mp hdecl))
  | some decl =>
    cases habstract : decl.isAbstract with
    | true => exact hsame (.abstractType hdecl habstract)
    | false =>
      obtain ⟨type, htype, hresolves⟩ := exists_type_of_build hr hdecl
      obtain ⟨role, hleast, hfails⟩ := (Registry.rolesOfInstance_eq_error_iff htype
        (hresolves.isAbstract.trans habstract)).mp h
      simp only [hresolves.mem_allRoles_iff, hresolves.fulfils_iff hr] at hleast
      exact .role hdecl habstract hleast ((checkRole_eq_error_iff hr hdecl).mp hfails)

end Declarations

end ClassGraph
