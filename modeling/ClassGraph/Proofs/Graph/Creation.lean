import ClassGraph.Proofs.Graph.Contracts

/-!
# When an entity can be created

A graph leaves it to its registry whether an entity can be created (`create_eq_error_iff`,
`exists_create_iff`), and no history of requests changes the registry. So in every graph that a
history leads to, the declarations say which entities can be created, what is reported otherwise and
which roles a new entity carries (`run_empty_create`).
-/

namespace ClassGraph.EntityGraph

variable {g : EntityGraph} {tag : String} {requested : List String}

/-- A graph refuses an entity for what its registry has against it. -/
theorem create_eq_error_iff {e : GraphError} : g.create tag requested = .error e ↔
    ∃ error, e = .contract error ∧ g.registry.rolesOfInstance tag requested = .error error := by
  unfold create
  cases g.registry.rolesOfInstance tag requested <;> simp [eq_comm]

/-- A graph creates an entity exactly when its registry grants the roles. -/
theorem exists_create_iff : (∃ x g', g.create tag requested = .ok (x, g')) ↔
    ∃ roles, g.registry.rolesOfInstance tag requested = .ok roles := by
  unfold create
  cases g.registry.rolesOfInstance tag requested <;> simp

/-! ## The main result -/

/-- In every graph that a history of requests leads to, an entity is refused exactly for what the
declarations have against it, and created exactly when they admit it, with the roles that they want
of it. The order and the repetitions of the roles that are asked for do not matter. -/
theorem run_empty_create {d : Declarations} {r : Registry} (hr : d.build = .ok r)
    (history : List Request) (tag : String) (requested : List String) :
    let g := (EntityGraph.empty r).run history
    (∀ e, g.create tag requested = .error e ↔
      ∃ error, e = .contract error ∧ d.Refuses tag requested error) ∧
    ((∃ x g', g.create tag requested = .ok (x, g')) ↔ ∃ decl, d.Admits tag requested decl) ∧
    (∀ x g', g.create tag requested = .ok (x, g') → ∃ decl roles, d.Admits tag requested decl ∧
      (∀ role, role ∈ roles ↔ d.Wants decl requested role) ∧
      g.Creates { id := x, typeTag := tag, roles } g') ∧
    ∀ requested', (∀ role, role ∈ requested' ↔ role ∈ requested) →
      g.create tag requested' = g.create tag requested := by
  intro g
  have hregistry : g.registry = r :=
    ((wellFormed_empty r).grants_run (by simp [EntityGraph.empty]) history).1
  refine ⟨fun e => ?_, ?_, fun x g' hcreate => ?_, fun requested' hsame => ?_⟩
  · rw [create_eq_error_iff, hregistry]
    simp only [Declarations.rolesOfInstance_eq_error_iff hr]
  · rw [exists_create_iff, hregistry, Declarations.exists_rolesOfInstance_iff hr]
  · obtain ⟨roles, hroles, hcreates⟩ := creates_of_create hcreate
    rw [hregistry] at hroles
    obtain ⟨decl, hadmits, hwants⟩ := (Declarations.rolesOfInstance_eq_ok_iff hr).mp hroles
    exact ⟨decl, roles, hadmits, hwants, hcreates⟩
  · unfold create
    rw [Registry.rolesOfInstance_eq_of_mem_iff hsame]

/-- The staff, with a role that requires more than it binds. -/
def payroll : Declarations :=
  let required : List Operation := [⟨"pay", 1⟩, ⟨"account", 0⟩, ⟨"getId", 0⟩]
  { staff with roles := staff.roles.insert "Payable" ⟨"Payable", .ofList required⟩ }

/-- An employee cannot be paid, which is reported before a role that is not known at all, and can
be created without that. -/
theorem create_payroll : ∃ r, payroll.build = .ok r ∧
    payroll.Refuses "Employee" ["Zealous", "Payable", "Payable"]
      (.unbound "Employee" "Payable" [⟨"account", 0⟩, ⟨"pay", 1⟩]) ∧
    ∃ decl, payroll.Admits "Employee" ["Identifiable"] decl := by
  obtain ⟨r, hr, hrefused, hgranted⟩ : ∃ r, payroll.build = .ok r ∧
      ((EntityGraph.empty r).run [.create "Employee" []]).create "Employee"
        ["Zealous", "Payable", "Payable"] =
          .error (.contract (.unbound "Employee" "Payable" [⟨"account", 0⟩, ⟨"pay", 1⟩])) ∧
      ∃ x g', ((EntityGraph.empty r).run [.create "Employee" []]).create "Employee"
        ["Identifiable"] = .ok (x, g') := ⟨_, rfl, rfl, _, _, rfl⟩
  refine ⟨r, hr, ?_, ?_⟩
  · obtain ⟨error, herror, hrefuses⟩ := ((run_empty_create hr [.create "Employee" []] "Employee"
      ["Zealous", "Payable", "Payable"]).1 _).mp hrefused
    exact GraphError.contract.inj herror ▸ hrefuses
  · exact (run_empty_create hr [.create "Employee" []] "Employee" ["Identifiable"]).2.1.mp hgranted

end ClassGraph.EntityGraph
