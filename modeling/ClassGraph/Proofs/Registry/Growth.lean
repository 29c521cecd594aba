import ClassGraph.Registry.Contract
import ClassGraph.Proofs.Registry.Resolution

/-!
# More declarations

Declarations of further types leave those that there were as they are: a type that resolves does so
in the same way among more declarations (`Within.resolve`), since its bases are the same
(`Within.ascends`). So a registry of more declarations can be built when the new types resolve as
well, and the types that there were look in it as before (`Within.getElem?_types`), down to the
roles that an instance is granted (`rolesOfInstance_congr`).
-/

namespace ClassGraph

namespace Declarations

/-- Some declarations are among others, which declare the same roles. -/
structure Within (d d' : Declarations) : Prop where
  /-- Every type is declared in the same way. -/
  types : ∀ {tag : String} {decl : TypeDecl}, d.types[tag]? = some decl →
    d'.types[tag]? = some decl
  /-- The roles are the same. -/
  roles : d'.roles = d.roles

variable {d d' : Declarations} {decl : TypeDecl}

/-- Bases that end do so in the same way among more declarations. -/
theorem Within.ascends (h : d.Within d') {bases : List TypeDecl} (hbases : d.Ascends decl bases) :
    d'.Ascends decl bases := by
  induction hbases with
  | top hnone => exact .top hnone
  | up hext _ ih =>
    obtain ⟨tag, htag, hbase⟩ := hext
    exact .up ⟨tag, htag, h.types hbase⟩ ih

/-- A type that resolves does so in the same way among more declarations. -/
theorem Within.resolve (h : d.Within d') {type : TypeDef} (ht : d.resolve decl = .ok type) :
    d'.resolve decl = .ok type := by
  obtain ⟨bases, hbases, hrest⟩ := Outcome.bind_eq_ok_iff.mp ht
  have hbases' : d'.basesOf decl = .ok bases :=
    basesOf_eq_ok_iff.mpr (h.ascends (basesOf_eq_ok_iff.mp hbases))
  unfold Declarations.resolve
  rw [hbases', Outcome.ok_bind, h.roles]
  exact hrest

/-- A type without a base and without roles resolves. -/
theorem exists_resolve (d : Declarations) (hbase : decl.base = none) (hroles : decl.roles = ∅) :
    ∃ type, d.resolve decl = .ok type := by
  have hbases : d.basesOf decl = .ok [] := basesOf_eq_ok_iff.mpr (.top hbase)
  have hnone : ([decl].foldl (fun all t => all ∪ t.roles) (∅ : NameSet)).toList = [] := by
    refine List.eq_nil_iff_forall_not_mem.mpr fun role hrole => ?_
    rw [Std.ExtTreeSet.mem_toList, Ordered.mem_foldl_union] at hrole
    simp [hroles] at hrole
  unfold Declarations.resolve
  rw [hbases, Outcome.ok_bind]
  dsimp only
  rw [hnone]
  exact ⟨_, rfl⟩

/-- The types that there were are as before in a registry of more declarations. -/
theorem Within.getElem?_types (h : d.Within d') {r r' : Registry} (hr : d.build = .ok r)
    (hr' : d'.build = .ok r') {tag : String} {type : TypeDef} (htype : r.types[tag]? = some type) :
    r'.types[tag]? = some type := by
  obtain ⟨decl, hdecl, hresolve⟩ := (getElem?_types_build hr).mp htype
  exact (getElem?_types_build hr').mpr ⟨decl, h.types hdecl, h.resolve hresolve⟩

/-- The roles are as before in a registry of more declarations. -/
theorem Within.roles_eq (h : d.Within d') {r r' : Registry} (hr : d.build = .ok r)
    (hr' : d'.build = .ok r') : r'.roles = r.roles := by
  rw [roles_build hr, roles_build hr', h.roles]

end Declarations

/-- The roles of an instance depend on its type and on the roles only. -/
theorem Registry.rolesOfInstance_congr {r r' : Registry} {tag : String}
    (htype : r'.types[tag]? = r.types[tag]?) (hroles : r'.roles = r.roles)
    (requested : List String) :
    r'.rolesOfInstance tag requested = r.rolesOfInstance tag requested := by
  have hcheck : r'.checkRole tag = r.checkRole tag := by
    funext role
    unfold checkRole missing
    rw [htype, hroles]
  unfold rolesOfInstance
  rw [htype, hcheck]

end ClassGraph
