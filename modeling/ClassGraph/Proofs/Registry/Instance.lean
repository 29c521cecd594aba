import ClassGraph.Registry.Contract
import ClassGraph.Proofs.Ordered
import ClassGraph.Proofs.Outcome

/-!
# When a type can have an instance

A type fulfils a role when it binds all operations that the role requires (`Registry.Fulfils`). The
roles of a new instance are those of its type and those that are asked for, and they are granted
exactly when the type fulfils each of them (`rolesOfInstance_eq_ok_iff`). Otherwise the least that
it does not fulfil is reported (`rolesOfInstance_eq_error_iff`), and among known roles that is one
of which the type leaves operations unbound (`rolesOfInstance_eq_error`).
-/

namespace ClassGraph.Registry

/-- The role is known, and the type binds all operations that it requires. -/
def Fulfils (r : Registry) (type : TypeDef) (role : String) : Prop :=
  ∃ contract, r.roles[role]? = some contract ∧ ∀ op ∈ contract.required, op ∈ type.operations

variable {r : Registry} {tag : String} {type : TypeDef}

/-- Of a known type, a known role has the operations missing that the type does not bind. -/
theorem missing_eq_ok_iff (htype : r.types[tag]? = some type) {role : String}
    {operations : List Operation} :
    r.missing tag role = .ok operations ↔ ∃ contract, r.roles[role]? = some contract ∧
      operations = contract.required.toList.filter fun op => !type.binds op := by
  unfold missing
  rw [htype]
  cases hrole : r.roles[role]? with
  | none => simp
  | some contract => simp [eq_comm]

/-- Nothing is missing exactly when the type fulfils the role. -/
theorem fulfils_iff_missing (htype : r.types[tag]? = some type) {role : String} :
    r.Fulfils type role ↔ r.missing tag role = .ok [] := by
  rw [missing_eq_ok_iff htype]
  refine exists_congr fun contract => and_congr_right fun _ => ?_
  rw [eq_comm, List.filter_eq_nil_iff]
  simp [TypeDef.binds]

/-- A role of a declared type passes the check when the type fulfils it. -/
theorem checkRole_eq_ok_iff (htype : r.types[tag]? = some type) {role : String} :
    r.checkRole tag role = .ok () ↔ r.Fulfils type role := by
  rw [fulfils_iff_missing htype]
  unfold checkRole
  cases hmissing : r.missing tag role with
  | error e => simp [Outcome.error_bind]
  | ok operations => cases operations <;> simp [Outcome.ok_bind, pure, Except.pure]

/-- The check of a role fails when the role is unknown, and otherwise with the operations that the
type leaves unbound. -/
theorem checkRole_eq_error_iff (htype : r.types[tag]? = some type) {role : String}
    {e : ContractError} : r.checkRole tag role = .error e ↔
      (role ∉ r.roles ∧ e = .unknownRole role) ∨
      ∃ operations, r.missing tag role = .ok operations ∧ operations ≠ [] ∧
        e = .unbound tag role operations := by
  unfold checkRole
  cases hrole : r.roles[role]? with
  | none =>
    have hmissing : r.missing tag role = .error (.unknownRole role) := by
      unfold missing
      rw [htype, hrole]
    rw [hmissing, Outcome.error_bind]
    simp [(getElem?_eq_none_iff _ _).mp hrole, eq_comm]
  | some contract =>
    rw [(missing_eq_ok_iff htype).mpr ⟨contract, hrole, rfl⟩, Outcome.ok_bind]
    generalize (contract.required.toList.filter fun op => !type.binds op) = operations
    cases operations <;>
      simp [Ordered.mem_of_getElem? hrole, pure, Except.pure, eq_comm]

/-- Roles are granted to instances of known types that are not abstract. -/
theorem exists_type_of_rolesOfInstance {requested : List String} {roles : NameSet}
    (h : r.rolesOfInstance tag requested = .ok roles) :
    ∃ type, r.types[tag]? = some type ∧ type.isAbstract = false := by
  unfold rolesOfInstance at h
  cases htype : r.types[tag]? with
  | none => simp [htype] at h
  | some type =>
    simp only [htype] at h
    split_ifs at h with habstract
    exact ⟨type, rfl, Bool.eq_false_iff.mpr habstract⟩

/-- It does not matter in which order and how often roles are asked for. -/
theorem rolesOfInstance_eq_of_mem_iff {requested requested' : List String}
    (h : ∀ role, role ∈ requested ↔ role ∈ requested') :
    r.rolesOfInstance tag requested = r.rolesOfInstance tag requested' := by
  have hset : (.ofList requested : NameSet) = .ofList requested' := by
    refine Std.ExtTreeSet.ext_mem fun role => ?_
    rw [Ordered.mem_set_ofList, Ordered.mem_set_ofList, h]
  unfold rolesOfInstance
  rw [hset]

/-- The roles that an instance is to carry: those of its type and those that are asked for. -/
def allRoles (type : TypeDef) (requested : List String) : NameSet :=
  type.roles ∪ .ofList requested

/-- All roles are those of the type and those that are asked for. -/
theorem mem_allRoles {requested : List String} {role : String} :
    role ∈ allRoles type requested ↔ role ∈ type.roles ∨ role ∈ requested := by
  rw [allRoles, Std.ExtTreeSet.mem_union_iff, Ordered.mem_set_ofList]

/-- A type with instances has one with these roles exactly when it fulfils all of them. -/
theorem rolesOfInstance_eq_ok_iff (htype : r.types[tag]? = some type)
    (hconcrete : type.isAbstract = false) {requested : List String} {roles : NameSet} :
    r.rolesOfInstance tag requested = .ok roles ↔
      roles = allRoles type requested ∧ ∀ role ∈ roles, r.Fulfils type role := by
  unfold rolesOfInstance
  simp only [htype, hconcrete, Bool.false_eq_true, if_false]
  rw [Outcome.map_eq_ok_iff]
  simp only [← checkRole_eq_ok_iff htype]
  constructor
  · rintro ⟨u, hcheck, rfl⟩
    exact ⟨rfl, fun role hrole =>
      Outcome.forM_eq_ok_iff.mp hcheck role (Std.ExtTreeSet.mem_toList.mpr hrole)⟩
  · rintro ⟨rfl, hcheck⟩
    exact ⟨(), Outcome.forM_eq_ok_iff.mpr fun role hrole =>
      hcheck role (Std.ExtTreeSet.mem_toList.mp hrole), rfl⟩

/-- An instance of a type that has some is refused for the least role that the type does not
fulfil. -/
theorem rolesOfInstance_eq_error_iff (htype : r.types[tag]? = some type)
    (hconcrete : type.isAbstract = false) {requested : List String} {e : ContractError} :
    r.rolesOfInstance tag requested = .error e ↔
      ∃ role, IsLeast {role | role ∈ allRoles type requested ∧ ¬ r.Fulfils type role} role ∧
        r.checkRole tag role = .error e := by
  have hleast : ∀ {e : ContractError}, r.rolesOfInstance tag requested = .error e →
      ∃ role, IsLeast {role | role ∈ allRoles type requested ∧ ¬ r.Fulfils type role} role ∧
        r.checkRole tag role = .error e := by
    intro e h
    unfold rolesOfInstance at h
    simp only [htype, hconcrete, Bool.false_eq_true, if_false] at h
    obtain ⟨role, hrole, hfails, hfirst⟩ := Outcome.exists_of_forM_eq_error
      (Ordered.ascending_toList (allRoles type requested)) (Outcome.map_eq_error_iff.mp h)
    simp only [Std.ExtTreeSet.mem_toList, Ne, checkRole_eq_ok_iff htype] at hrole hfirst
    refine ⟨role, ⟨⟨hrole, fun hfulfils => ?_⟩, ?_⟩, hfails⟩
    · simp [(checkRole_eq_ok_iff htype).mpr hfulfils] at hfails
    · rintro other ⟨hother, hunmet⟩
      exact (hfirst other hother hunmet).elim (fun h => h.symm.le) le_of_lt
  refine ⟨hleast, fun ⟨role, hrole, hfails⟩ => ?_⟩
  cases hroles : r.rolesOfInstance tag requested with
  | ok roles =>
    obtain ⟨rfl, hfulfils⟩ := (rolesOfInstance_eq_ok_iff htype hconcrete).mp hroles
    exact absurd (hfulfils role hrole.1.1) hrole.1.2
  | error e' =>
    obtain ⟨role', hrole', hfails'⟩ := hleast hroles
    obtain rfl := hrole.unique hrole'
    rw [Except.error.inj (hfails'.symm.trans hfails)]

/-- When an instance with known roles is refused, its type leaves operations of one of them unbound,
and that is the least that it does not fulfil. -/
theorem rolesOfInstance_eq_error (htype : r.types[tag]? = some type)
    (hconcrete : type.isAbstract = false) {requested : List String}
    (hknown : ∀ role ∈ allRoles type requested, role ∈ r.roles) {e : ContractError}
    (h : r.rolesOfInstance tag requested = .error e) :
    ∃ role ∈ allRoles type requested, ∃ operations, ¬ r.Fulfils type role ∧
      (∀ other ∈ allRoles type requested, ¬ r.Fulfils type other →
        other = role ∨ compare role other = .lt) ∧
      r.missing tag role = .ok operations ∧ e = .unbound tag role operations := by
  obtain ⟨role, hleast, hfails⟩ := (rolesOfInstance_eq_error_iff htype hconcrete).mp h
  obtain ⟨hrole, hunmet⟩ := hleast.1
  refine ⟨role, hrole, ?_⟩
  rcases (checkRole_eq_error_iff htype).mp hfails with ⟨hout, -⟩ | ⟨operations, hmissing, -, he⟩
  · exact absurd (hknown role hrole) hout
  · refine ⟨operations, hunmet, fun other hother hfails' => ?_, hmissing, he⟩
    exact (hleast.2 ⟨hother, hfails'⟩).eq_or_lt.imp Eq.symm compare_lt_iff_lt.mpr

end ClassGraph.Registry
