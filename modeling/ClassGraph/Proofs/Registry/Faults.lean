import ClassGraph.Proofs.Registry.Declaring

/-!
# Faults of declarations

A declared type has a fault when its bases stray, and otherwise when it carries a role that is not
declared, the least of which counts (`Fault`). It is resolved exactly when it has none
(`resolve_eq_error_iff`), and a registry cannot be built exactly when some type has one; what is
reported is the fault of the least such type (`build_eq_error_iff`).

A fault is that of a whole line of bases, but what is reported of it names the type from which the
line was walked. So a type that merely inherits from the one at fault is blamed in its place when
its own name comes first (`build_error_blames`): only a missing base is always laid at the door of
the type that names it.
-/

open Relation

namespace ClassGraph.Declarations

/-- Why a declared type cannot be resolved. -/
inductive Fault (d : Declarations) (decl : TypeDecl) : DeclarationError → Prop
  /-- Its bases do not end. -/
  | bases {e : DeclarationError} : d.Strays decl e → Fault d decl e
  /-- Its bases end, and of the roles that it carries this is the least that is not declared. -/
  | unknownRole {bases : List TypeDecl} {role : String} : d.Ascends decl bases →
    IsLeast {role | d.Carries decl role ∧ role ∉ d.roles} role →
      Fault d decl (.unknownRole decl.tag role)

/-- A type of this name is declared and has a fault. -/
def Faulty (d : Declarations) (tag : String) : Prop :=
  ∃ decl e, d.types[tag]? = some decl ∧ d.Fault decl e

variable {d : Declarations} {decl : TypeDecl} {bases : List TypeDecl} {e : DeclarationError}

/-! ## One type -/

/-- A type whose bases end is resolved unless a search through the roles that it carries finds one
that is not declared. -/
theorem Ascends.exists_resolve_eq (h : d.Ascends decl bases) :
    ∃ (roles : NameSet) (type : TypeDef), (∀ role, role ∈ roles ↔ d.Carries decl role) ∧
      d.resolve decl = match roles.toList.find? fun role => !d.roles.contains role with
        | some role => .error (.unknownRole decl.tag role)
        | none => .ok type := by
  unfold resolve
  rw [basesOf_eq_ok_iff.mpr h, Outcome.ok_bind]
  refine ⟨_, _, fun role => ?_, rfl⟩
  rw [Ordered.mem_foldl_union, or_iff_right Std.ExtTreeSet.not_mem_empty]
  exact exists_congr fun above => and_congr_left' (h.mem_iff above)

/-- A type whose bases end is not resolved exactly when it carries a role that is not declared, the
least of which is reported. -/
theorem Ascends.resolve_eq_error_iff (h : d.Ascends decl bases) :
    d.resolve decl = .error e ↔
      ∃ role, IsLeast {role | d.Carries decl role ∧ role ∉ d.roles} role ∧
        e = .unknownRole decl.tag role := by
  obtain ⟨roles, type, hroles, hresolve⟩ := h.exists_resolve_eq
  have hfind : ∀ role, roles.toList.find? (fun role => !d.roles.contains role) = some role ↔
      IsLeast {role | d.Carries decl role ∧ role ∉ d.roles} role := by
    intro role
    rw [Ordered.find?_toList_eq_some_iff]
    simp [hroles, ← Bool.not_eq_true]
  rw [hresolve]
  simp only [← hfind]
  split <;> simp [*, eq_comm]

/-- A type whose bases end is resolved exactly when all roles that it carries are declared. -/
theorem Ascends.exists_resolve_iff (h : d.Ascends decl bases) :
    (∃ type, d.resolve decl = .ok type) ↔ ∀ role, d.Carries decl role → role ∈ d.roles := by
  obtain ⟨roles, type, hroles, hresolve⟩ := h.exists_resolve_eq
  simp only [hresolve, ← hroles]
  split
  · rename_i role hfind
    have hmem := Std.ExtTreeSet.mem_toList.mp (List.mem_of_find?_eq_some hfind)
    have hout := List.find?_some hfind
    simp only [reduceCtorEq, exists_false, false_iff, not_forall]
    exact ⟨role, hmem, by simpa [← Bool.not_eq_true] using hout⟩
  · rename_i hfind
    simpa using List.find?_eq_none.mp hfind

/-- A type is not resolved exactly when it has a fault. -/
theorem resolve_eq_error_iff : d.resolve decl = .error e ↔ d.Fault decl e := by
  cases hbases : d.basesOf decl with
  | error e' =>
    have hresolve : d.resolve decl = .error e' := by
      unfold resolve
      rw [hbases, Outcome.error_bind]
    have hstrays : d.Strays decl e' := basesOf_eq_error_iff.mp hbases
    rw [hresolve, Except.error.injEq]
    constructor
    · rintro rfl
      exact .bases hstrays
    · rintro (h | ⟨hascends, -⟩)
      · exact hstrays.unique h
      · exact absurd hstrays hascends.not_strays
  | ok bases =>
    have hascends : d.Ascends decl bases := ascends_of_basesOf hbases
    rw [hascends.resolve_eq_error_iff]
    constructor
    · rintro ⟨role, hrole, rfl⟩
      exact .unknownRole hascends hrole
    · rintro (h | ⟨-, hrole⟩)
      · exact absurd h hascends.not_strays
      · exact ⟨_, hrole, rfl⟩

/-- Nothing but one fault is found with a declaration. -/
theorem Fault.unique {e' : DeclarationError} (h : d.Fault decl e) (h' : d.Fault decl e') :
    e = e' :=
  Except.error.inj ((resolve_eq_error_iff.mpr h).symm.trans (resolve_eq_error_iff.mpr h'))

/-- A type without a fault is resolved. -/
theorem exists_resolve_iff : (∃ type, d.resolve decl = .ok type) ↔ ∀ e, ¬ d.Fault decl e := by
  simp only [← resolve_eq_error_iff]
  cases d.resolve decl <;> simp

/-! ## All types -/

/-- A registry can be built exactly when no declared type has a fault. -/
theorem exists_build_iff : (∃ r, d.build = .ok r) ↔ ∀ tag, ¬ d.Faulty tag := by
  constructor
  · rintro ⟨r, hr⟩ tag ⟨decl, e, hdecl, hfault⟩
    exact exists_resolve_iff.mp (exists_resolve_of_build hr hdecl) e hfault
  · intro h
    refine exists_build fun {tag decl} hdecl => exists_resolve_iff.mpr fun e hfault => ?_
    exact h tag ⟨decl, e, hdecl, hfault⟩

/-- When no registry can be built, the fault of the least type that has one is reported. -/
theorem exists_fault_of_build (h : d.build = .error e) :
    ∃ tag decl, IsLeast {tag | d.Faulty tag} tag ∧ d.types[tag]? = some decl ∧ d.Fault decl e := by
  unfold build at h
  rcases Outcome.bind_eq_error_iff.mp h with h | ⟨_, -, h⟩
  · obtain ⟨⟨tag, decl⟩, hmem, hfails, hfirst⟩ :=
      Outcome.exists_of_mapM_eq_error Std.ExtTreeMap.ordered_keys_toList h
    have hdecl : d.types[tag]? = some decl := Std.ExtTreeMap.mem_toList_iff_getElem?_eq_some.mp hmem
    have hfault : d.Fault decl e := by
      rcases Outcome.bind_eq_error_iff.mp hfails with hfails | ⟨_, -, hfails⟩
      · exact resolve_eq_error_iff.mp hfails
      · cases hfails
    refine ⟨tag, decl, ⟨⟨decl, e, hdecl, hfault⟩, ?_⟩, hdecl, hfault⟩
    rintro other ⟨decl', e', hdecl', hfault'⟩
    -- The entry of another type with a fault fails as well, and so comes later.
    have hfails' : ∀ resolved, (d.resolve decl' >>= fun type => Except.ok (other, type)) ≠
        .ok resolved := by
      intro resolved hresolved
      obtain ⟨type, htype, -⟩ := Outcome.bind_eq_ok_iff.mp hresolved
      exact exists_resolve_iff.mp ⟨type, htype⟩ e' hfault'
    have hmem' := Std.ExtTreeMap.mem_toList_iff_getElem?_eq_some.mpr hdecl'
    rcases hfirst (other, decl') hmem' hfails' with heq | hlt
    · rw [(Prod.mk.inj heq).1]
    · exact (compare_lt_iff_lt.mp hlt).le
  · cases h

/-- No registry can be built exactly when some type has a fault, and the fault of the least such
type is reported. -/
theorem build_eq_error_iff : d.build = .error e ↔ ∃ tag decl,
    IsLeast {tag | d.Faulty tag} tag ∧ d.types[tag]? = some decl ∧ d.Fault decl e := by
  refine ⟨exists_fault_of_build, ?_⟩
  rintro ⟨tag, decl, hleast, hdecl, hfault⟩
  cases hbuild : d.build with
  | ok r => exact absurd hleast.1 (exists_build_iff.mp ⟨r, hbuild⟩ tag)
  | error e' =>
    obtain ⟨tag', decl', hleast', hdecl', hfault'⟩ := exists_fault_of_build hbuild
    obtain rfl := hleast.unique hleast'
    obtain rfl := Option.some.inj (hdecl.symm.trans hdecl')
    rw [hfault.unique hfault']

/-! ## Who is blamed -/

/-- A type of this name is declared, and of its line of bases, itself included, some member is at
fault. When it is not at fault itself, its name comes before those of all that are. -/
def Blames (d : Declarations) (tag : String) (AtFault : TypeDecl → Prop) : Prop :=
  ∃ decl, d.types[tag]? = some decl ∧
    (∃ above, ReflTransGen d.Extends decl above ∧ AtFault above) ∧
    ∀ above, ReflTransGen d.Extends decl above → AtFault above → above = decl ∨ tag < above.tag

/-- The least type with a fault is blamed for what is a fault of all types on its line that are at
fault. -/
theorem Tagged.blames (hd : d.Tagged) {tag : String} (hleast : IsLeast {tag | d.Faulty tag} tag)
    (hdecl : d.types[tag]? = some decl) {AtFault : TypeDecl → Prop}
    (hexists : ∃ above, ReflTransGen d.Extends decl above ∧ AtFault above)
    (hfaulty : ∀ above, ReflTransGen d.Extends decl above → AtFault above →
      ∃ e, d.Fault above e) : d.Blames tag AtFault := by
  refine ⟨decl, hdecl, hexists, fun above hchain habove => ?_⟩
  obtain ⟨e, hfault⟩ := hfaulty above hchain habove
  have hdeclared : d.types[above.tag]? = some above := hd.getElem?_of_chain hdecl hchain
  rcases (hleast.2 ⟨above, e, hdeclared, hfault⟩).eq_or_lt with rfl | hlt
  · exact .inl (Option.some.inj (hdeclared.symm.trans hdecl))
  · exact .inr hlt

/-- A registry cannot be built exactly when some type has a fault, and the fault of the least such
type is reported. A missing base is reported of the type that names it. A cycle and a role that is
not declared are reported of a type that is at fault, or inherits from one that is and comes before
all such in the order of names. -/
theorem build_error_blames {items : List Item} (hd : ofItems items = .ok d) :
    (∀ e, d.build = .error e ↔ ∃ tag decl, IsLeast {tag | d.Faulty tag} tag ∧
      d.types[tag]? = some decl ∧ d.Fault decl e) ∧
    (∀ tag base, d.build = .error (.unknownBase tag base) →
      base ∉ d.types ∧ ∃ decl, d.types[tag]? = some decl ∧ decl.base = some base) ∧
    (∀ tag, d.build = .error (.inheritanceCycle tag) →
      d.Blames tag fun above => TransGen d.Extends above above) ∧
    ∀ tag role, d.build = .error (.unknownRole tag role) →
      role ∉ d.roles ∧ d.Blames tag fun above => role ∈ above.roles := by
  have htagged : d.Tagged := (records_ofItems hd).tagged
  refine ⟨fun e => build_eq_error_iff, fun tag base h => ?_, fun tag h => ?_, fun tag role h => ?_⟩
  · obtain ⟨_, decl, -, hdecl, hfault⟩ := build_eq_error_iff.mp h
    cases hfault with
    | bases hstrays =>
      cases hstrays with
      | unknownBase habove hbase hout =>
        exact ⟨hout, _, htagged.getElem?_of_chain hdecl habove, hbase⟩
  · obtain ⟨name, decl, hleast, hdecl, hfault⟩ := build_eq_error_iff.mp h
    obtain rfl : decl.tag = name := htagged hdecl
    cases hfault with
    | bases hstrays =>
      cases hstrays with
      | inheritanceCycle habove hcycle =>
        refine htagged.blames hleast hdecl ⟨_, habove, hcycle⟩ fun above _ habove => ?_
        exact ⟨_, .bases (.inheritanceCycle .refl habove)⟩
  · obtain ⟨name, decl, hleast, hdecl, hfault⟩ := build_eq_error_iff.mp h
    obtain rfl : decl.tag = name := htagged hdecl
    cases hfault with
    | bases hstrays => cases hstrays
    | unknownRole hascends hrole =>
      refine ⟨hrole.1.2, htagged.blames hleast hdecl hrole.1.1 fun above hchain habove => ?_⟩
      -- Above the type the role is still the least that is not declared.
      obtain ⟨more, hmore⟩ := hascends.of_chain hchain
      refine ⟨_, .unknownRole hmore ⟨⟨⟨above, .refl, habove⟩, hrole.1.2⟩, ?_⟩⟩
      rintro other ⟨⟨higher, hhigher, hother⟩, hout⟩
      exact hrole.2 ⟨⟨higher, hchain.trans hhigher, hother⟩, hout⟩

/-- A boat is a ship. -/
def boat : TypeDecl := { tag := "Boat", base := some "Ship" }

/-- A ship that extends itself, and boats below it. -/
def ships : List Item := [.type boat, .type { tag := "Ship", base := some "Ship" }]

/-- A ship that carries a role that is not declared, and boats below it. -/
def crewedShips : List Item :=
  [.type boat, .type { tag := "Ship", roles := .ofList ["Crewed"] }]

/-- The boat is reported for the cycle of the ship. -/
theorem build_ships : ∃ d, ofItems ships = .ok d ∧ d.types["Boat"]? = some boat ∧
    d.build = .error (.inheritanceCycle "Boat") :=
  ⟨_, rfl, rfl, rfl⟩

/-- The boat is blamed for a cycle on its line. -/
theorem blames_boat : ∃ d, ofItems ships = .ok d ∧
    d.build = .error (.inheritanceCycle "Boat") ∧
    d.Blames "Boat" fun above => TransGen d.Extends above above := by
  obtain ⟨d, hd, -, hbuild⟩ := build_ships
  exact ⟨d, hd, hbuild, (build_error_blames hd).2.2.1 "Boat" hbuild⟩

/-- The boat is not on the cycle that is reported of it. Nor does it carry the role itself that is
reported of it where the ship carries one that is not declared. -/
theorem not_atFault_boat :
    (∃ d, ofItems ships = .ok d ∧ d.types["Boat"]? = some boat ∧
      d.build = .error (.inheritanceCycle "Boat") ∧ ¬ TransGen d.Extends boat boat) ∧
    ∃ d, ofItems crewedShips = .ok d ∧ d.types["Boat"]? = some boat ∧
      d.build = .error (.unknownRole "Boat" "Crewed") ∧ "Crewed" ∉ boat.roles := by
  obtain ⟨d, hd, hboat, hbuild⟩ := build_ships
  refine ⟨⟨d, hd, hboat, hbuild, fun hcycle => ?_⟩, ⟨_, rfl, rfl, rfl, by decide⟩⟩
  -- Nothing that is declared extends a boat.
  have hrecords : d.Records ships := records_ofItems hd
  have htagged : d.Tagged := hrecords.tagged
  obtain ⟨below, hchain, tag, htag, htarget⟩ := TransGen.tail'_iff.mp hcycle
  have hbelow := htagged.getElem?_of_chain hboat hchain
  obtain ⟨hmem, -⟩ := (hrecords.types below.tag below).mp hbelow
  have hname : boat.tag = tag := htagged htarget
  simp only [ships, List.mem_cons, Item.type.injEq, List.not_mem_nil, or_false] at hmem
  rcases hmem with rfl | rfl <;> simp [boat, ← hname] at htag

end ClassGraph.Declarations
