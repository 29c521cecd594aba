import ClassGraph.Proofs.Graph.Step
import ClassGraph.Proofs.Registry.Granting

/-!
# The contracts of entities

An entity is granted its roles when it is created, and no request changes them later: an entity
behind a request was there before or has just been granted its roles (`Does.entity`). In every graph
that a history of requests leads to, the registry therefore grants each entity the roles that it
carries (`WellFormed.grants_run`). Where the registry was built from declarations, that means that
the type of the entity or one of its bases declares every operation that these roles require
(`run_empty_upholds`).
-/

open Relation

namespace ClassGraph

/-- The registry grants an instance of the type of an entity the roles that the entity carries. -/
def Registry.Grants (r : Registry) (entity : Entity) : Prop :=
  ∃ requested, r.rolesOfInstance entity.typeTag requested = .ok entity.roles

namespace Declarations

/-- An entity of a declared type, in a graph over a registry, keeps the contracts of its roles. -/
structure Upholds (d : Declarations) (r : Registry) (decl : TypeDecl) (entity : Entity) :
    Prop where
  /-- The type of the entity is declared. -/
  declared : d.types[entity.typeTag]? = some decl
  /-- It is declared with instances. -/
  concrete : decl.isAbstract = false
  /-- It is registered with instances. -/
  registered : ∃ type, r.types[entity.typeTag]? = some type ∧ type.isAbstract = false
  /-- The entity carries all roles that its type and the bases of it declare. -/
  carries : ∀ role, d.Carries decl role → role ∈ entity.roles
  /-- Each role that the entity carries is declared and registered, and the type and its bases
  declare all operations that the role requires. -/
  binds : ∀ role ∈ entity.roles, ∃ contract, d.roles[role]? = some contract ∧
    r.roles[role]? = some contract ∧ ∀ op ∈ contract.required, d.Binds decl op

/-- An entity with roles that a registry grants keeps the contracts of the declarations from which
the registry was built. -/
theorem exists_upholds_of_grants {d : Declarations} {r : Registry} (hr : d.build = .ok r)
    {entity : Entity} (h : r.Grants entity) : ∃ decl, d.Upholds r decl entity := by
  obtain ⟨requested, hgrant⟩ := h
  obtain ⟨decl, hadmits, hroles⟩ := (rolesOfInstance_eq_ok_iff hr).mp hgrant
  obtain ⟨type, htype, hresolves⟩ := exists_type_of_build hr hadmits.declared
  refine ⟨decl, {
    declared := hadmits.declared
    concrete := hadmits.concrete
    registered := ⟨type, htype, hresolves.isAbstract.trans hadmits.concrete⟩
    carries := fun role hrole => (hroles role).mpr (.inr hrole)
    binds := fun role hrole => ?_ }⟩
  obtain ⟨contract, hcontract, hbinds⟩ := hadmits.meets role ((hroles role).mp hrole)
  exact ⟨contract, hcontract, (roles_build hr).symm ▸ hcontract, hbinds⟩

end Declarations

namespace EntityGraph

/-! ## Histories -/

/-- A history leaves the registry, and when that has granted all entities their roles before, it has
done so behind the history. -/
theorem WellFormed.grants_run {g : EntityGraph} (h : g.WellFormed)
    (hgrants : ∀ (x : EntityId) (entity : Entity), g.entities[x]? = some entity →
      g.registry.Grants entity) (history : List Request) :
    (g.run history).registry = g.registry ∧ ∀ (x : EntityId) (entity : Entity),
      (g.run history).entities[x]? = some entity → g.registry.Grants entity := by
  refine h.run_induction (motive := fun g' => g'.registry = g.registry ∧
    ∀ (x : EntityId) (entity : Entity), g'.entities[x]? = some entity →
      g.registry.Grants entity) (fun _ hdoes hg' => ?_) ⟨rfl, hgrants⟩ history
  obtain ⟨hsame, hgranted⟩ := hg'
  refine ⟨hdoes.registry.trans hsame, fun x entity hx => ?_⟩
  rcases hdoes.entity hx with hold | ⟨-, hnew⟩
  · exact hgranted x entity hold
  · exact hsame ▸ hnew

/-! ## The main result -/

/-- In every graph that a history of requests leads to, every live entity keeps the contracts of the
declarations, and so a role that an entity satisfies is declared and has all its operations bound by
the type of the entity and its bases. -/
theorem run_empty_upholds {d : Declarations} {r : Registry} (hr : d.build = .ok r)
    (history : List Request) :
    let g := (EntityGraph.empty r).run history
    (∀ (x : EntityId) (entity : Entity), g.entities[x]? = some entity →
      ∃ decl, d.Upholds r decl entity) ∧
    ∀ (x : EntityId) (role : String), g.satisfies x role = .ok true →
      ∃ entity decl contract, g.entities[x]? = some entity ∧
        d.types[entity.typeTag]? = some decl ∧ d.roles[role]? = some contract ∧
        ∀ op ∈ contract.required, d.Binds decl op := by
  intro g
  have hupholds : ∀ (x : EntityId) (entity : Entity), g.entities[x]? = some entity →
      ∃ decl, d.Upholds r decl entity := by
    intro x entity hx
    have hgrants := (wellFormed_empty r).grants_run (by simp [EntityGraph.empty]) history
    exact Declarations.exists_upholds_of_grants hr (hgrants.2 x entity hx)
  refine ⟨hupholds, fun x role hsatisfies => ?_⟩
  unfold satisfies at hsatisfies
  cases hx : g.entities[x]? with
  | none => simp [hx] at hsatisfies
  | some entity =>
    simp only [hx, Except.ok.injEq] at hsatisfies
    obtain ⟨decl, h⟩ := hupholds x entity hx
    obtain ⟨contract, hcontract, -, hbinds⟩ :=
      h.binds role (Std.ExtTreeSet.mem_iff_contains.mpr hsatisfies)
    exact ⟨entity, decl, contract, rfl, h.declared, hcontract, hbinds⟩

/-- Employees are persons, and a person can be identified. -/
def staff : Declarations :=
  let getId : Operation := ⟨"getId", 0⟩
  let identifiable : Role := ⟨"Identifiable", .ofList [getId]⟩
  let person : TypeDecl := { tag := "Person", isAbstract := true, operations := .ofList [getId]
                             roles := .ofList ["Identifiable"] }
  let employee : TypeDecl := { tag := "Employee", base := some "Person" }
  { roles := .ofList [(identifiable.tag, identifiable)]
    types := .ofList [(employee.tag, employee), (person.tag, person)] }

/-- An employee satisfies the role that persons carry, by an operation of these. -/
theorem upholds_staff : ∃ r, staff.build = .ok r ∧
    ((EntityGraph.empty r).run [.create "Employee" []]).satisfies ⟨1⟩ "Identifiable" = .ok true ∧
    ∃ entity decl contract,
      ((EntityGraph.empty r).run [.create "Employee" []]).entities[(⟨1⟩ : EntityId)]? =
        some entity ∧
      staff.types[entity.typeTag]? = some decl ∧ staff.roles["Identifiable"]? = some contract ∧
      ∀ op ∈ contract.required, staff.Binds decl op := by
  refine ⟨_, rfl, by decide, ?_⟩
  exact (run_empty_upholds rfl [.create "Employee" []]).2 ⟨1⟩ "Identifiable" (by decide)

end EntityGraph

end ClassGraph
