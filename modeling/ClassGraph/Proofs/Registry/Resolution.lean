import ClassGraph.Proofs.Registry.Bases

/-!
# What a registry holds

A resolved type has the operations and roles of all the declarations to which a chain of bases leads
from its own (`Resolves`). A registry that could be built has exactly the declared types, each
resolved, and the declared roles (`getElem?_types_build`, `roles_build`).
-/

open Relation

namespace ClassGraph.Declarations

/-- The operation is declared by the type or by one of its bases. -/
def Binds (d : Declarations) (decl : TypeDecl) (op : Operation) : Prop :=
  ∃ above, ReflTransGen d.Extends decl above ∧ op ∈ above.operations

/-- The role is declared by the type or by one of its bases. -/
def Carries (d : Declarations) (decl : TypeDecl) (role : String) : Prop :=
  ∃ above, ReflTransGen d.Extends decl above ∧ role ∈ above.roles

/-- A type is a declaration together with all that it inherits. -/
structure Resolves (d : Declarations) (decl : TypeDecl) (type : TypeDef) : Prop where
  /-- The name stays. -/
  tag : type.tag = decl.tag
  /-- The base stays. -/
  base : type.base = decl.base
  /-- It has instances of its own as before. -/
  isAbstract : type.isAbstract = decl.isAbstract
  /-- The operations are those that the chain of bases binds. -/
  operations : ∀ op, op ∈ type.operations ↔
    ∃ above, ReflTransGen d.Extends decl above ∧ op ∈ above.operations
  /-- The roles are those that the chain of bases carries. -/
  roles : ∀ role, role ∈ type.roles ↔
    ∃ above, ReflTransGen d.Extends decl above ∧ role ∈ above.roles

/-- A resolved type has all that it inherits. -/
theorem resolves_of_resolve {d : Declarations} {decl : TypeDecl} {type : TypeDef}
    (h : d.resolve decl = .ok type) : d.Resolves decl type := by
  unfold resolve at h
  obtain ⟨bases, hbases, h⟩ := Outcome.bind_eq_ok_iff.mp h
  have hmem := (ascends_of_basesOf hbases).mem_iff
  dsimp only at h
  split at h
  · cases h
  · obtain rfl := Except.ok.inj h
    exact {
      tag := rfl
      base := rfl
      isAbstract := rfl
      operations := fun op => by simp [Ordered.mem_foldl_union, ← hmem]
      roles := fun role => by simp [Ordered.mem_foldl_union, ← hmem] }

/-! ## Registries -/

/-- The entry of a declared type in a registry. -/
theorem entry_eq_ok_iff {d : Declarations} {declared : String × TypeDecl}
    {resolved : String × TypeDef} :
    (d.resolve declared.2 >>= fun type => Except.ok (declared.1, type)) = .ok resolved ↔
      declared.1 = resolved.1 ∧ d.resolve declared.2 = .ok resolved.2 := by
  rw [Outcome.bind_eq_ok_iff]
  constructor
  · rintro ⟨type, htype, ⟨⟩⟩
    exact ⟨rfl, htype⟩
  · rintro ⟨htag, htype⟩
    exact ⟨_, htype, congrArg Except.ok (Prod.ext htag rfl)⟩

/-- The entries of a registry that could be built. -/
theorem map_toList_of_build {d : Declarations} {r : Registry} (h : d.build = .ok r) :
    ∃ resolved, r = { types := .ofList resolved, roles := d.roles } ∧
      d.types.toList.map (fun declared =>
        d.resolve declared.2 >>= fun type => Except.ok (declared.1, type)) = resolved.map .ok := by
  unfold build at h
  obtain ⟨resolved, hresolved, h⟩ := Outcome.bind_eq_ok_iff.mp h
  exact ⟨resolved, (Except.ok.inj h).symm, Outcome.mapM_eq_ok_iff.mp hresolved⟩

/-- A registry that could be built has the resolved types of the declared ones. -/
theorem getElem?_types_build {d : Declarations} {r : Registry} (h : d.build = .ok r)
    {tag : String} {type : TypeDef} :
    r.types[tag]? = some type ↔ ∃ decl, d.types[tag]? = some decl ∧ d.resolve decl = .ok type := by
  obtain ⟨resolved, rfl, hresolved⟩ := map_toList_of_build h
  -- The entries have the tags of the declarations, which are all different.
  have hkeys : (resolved.map Prod.fst).Nodup := by
    rw [List.Nodup, List.pairwise_map]
    have hok : (resolved.map (Except.ok : _ → Except DeclarationError _)).Pairwise
        fun x y => ∀ p q, x = .ok p → y = .ok q → p.1 ≠ q.1 := by
      rw [← hresolved, List.pairwise_map]
      refine Std.ExtTreeMap.distinct_keys_toList.imp fun {a b} hne p q hp hq hpq => hne ?_
      rw [Std.LawfulEqOrd.compare_eq_iff_eq, (entry_eq_ok_iff.mp hp).1, (entry_eq_ok_iff.mp hq).1,
        hpq]
    exact (List.pairwise_map.mp hok).imp fun hpq => hpq _ _ rfl rfl
  have hinj : Function.Injective (Except.ok : String × TypeDef → Except DeclarationError _) :=
    fun _ _ => Except.ok.inj
  rw [Ordered.getElem?_ofList_eq_some_iff hkeys, ← List.mem_map_of_injective hinj, ← hresolved]
  simp only [List.mem_map, entry_eq_ok_iff, Prod.exists,
    Std.ExtTreeMap.mem_toList_iff_getElem?_eq_some]
  constructor
  · rintro ⟨_, decl, hdecl, rfl, htype⟩
    exact ⟨decl, hdecl, htype⟩
  · rintro ⟨decl, hdecl, htype⟩
    exact ⟨tag, decl, hdecl, rfl, htype⟩

/-- Every declared type is resolved when a registry could be built. -/
theorem exists_resolve_of_build {d : Declarations} {r : Registry} (h : d.build = .ok r)
    {tag : String} {decl : TypeDecl} (hdecl : d.types[tag]? = some decl) :
    ∃ type, d.resolve decl = .ok type := by
  obtain ⟨resolved, -, hresolved⟩ := map_toList_of_build h
  have hmem := List.mem_map_of_mem (f := fun declared : String × TypeDecl =>
    d.resolve declared.2 >>= fun type => Except.ok (declared.1, type))
    (Std.ExtTreeMap.mem_toList_iff_getElem?_eq_some.mpr hdecl)
  rw [hresolved] at hmem
  obtain ⟨entry, -, hentry⟩ := List.mem_map.mp hmem
  exact ⟨entry.2, (entry_eq_ok_iff.mp hentry.symm).2⟩

/-- A registry that could be built has every declared type. -/
theorem exists_type_of_build {d : Declarations} {r : Registry} (h : d.build = .ok r) {tag : String}
    {decl : TypeDecl} (hdecl : d.types[tag]? = some decl) :
    ∃ type, r.types[tag]? = some type ∧ d.Resolves decl type := by
  obtain ⟨type, hresolve⟩ := exists_resolve_of_build h hdecl
  exact ⟨type, (getElem?_types_build h).mpr ⟨decl, hdecl, hresolve⟩, resolves_of_resolve hresolve⟩

/-- A registry that could be built has the declared names. -/
theorem mem_types_build {d : Declarations} {r : Registry} (hr : d.build = .ok r) (tag : String) :
    tag ∈ r.types ↔ tag ∈ d.types := by
  rw [Ordered.mem_iff_exists, Ordered.mem_iff_exists]
  constructor
  · rintro ⟨type, htype⟩
    obtain ⟨decl, hdecl, -⟩ := (getElem?_types_build hr).mp htype
    exact ⟨decl, hdecl⟩
  · rintro ⟨decl, hdecl⟩
    obtain ⟨type, htype, -⟩ := exists_type_of_build hr hdecl
    exact ⟨type, htype⟩

/-- A registry can be built when all types resolve. -/
theorem exists_build {d : Declarations} (h : ∀ {tag : String} {decl : TypeDecl},
    d.types[tag]? = some decl → ∃ type, d.resolve decl = .ok type) : ∃ r, d.build = .ok r := by
  have hentries : ∀ declared ∈ d.types.toList, ∃ resolved : String × TypeDef,
      (d.resolve declared.2 >>= fun type => Except.ok (declared.1, type)) = .ok resolved := by
    rintro ⟨tag, decl⟩ hdecl
    obtain ⟨type, htype⟩ := h (Std.ExtTreeMap.mem_toList_iff_getElem?_eq_some.mp hdecl)
    exact ⟨(tag, type), entry_eq_ok_iff.mpr ⟨rfl, htype⟩⟩
  obtain ⟨resolved, hresolved⟩ := Outcome.exists_mapM_eq_ok hentries
  unfold build
  exact ⟨_, Outcome.bind_eq_ok_iff.mpr ⟨resolved, hresolved, rfl⟩⟩

/-- A registry that could be built has the declared roles. -/
theorem roles_build {d : Declarations} {r : Registry} (h : d.build = .ok r) :
    r.roles = d.roles := by
  obtain ⟨resolved, rfl, -⟩ := map_toList_of_build h
  rfl

end ClassGraph.Declarations
