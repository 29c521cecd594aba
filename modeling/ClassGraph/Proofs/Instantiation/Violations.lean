import ClassGraph.Proofs.Instantiation.Verdicts

/-!
# The contracts that are reported as violated

A class may leave operations of several roles unbound. Its entity is refused for the first of these
roles, in the order of their names, and on the second attempt it does without the others as well. So
one violation is reported for each class that has any (`instantiate_violations`), and the others
come to light only when that one is mended.
-/

namespace ClassGraph

namespace Declared

variable {d : Declared}

/-- A class violates a role: it implements it and leaves an operation unbound that the role
requires. -/
def Violates (d : Declared) (c : Classifier) (role : String) : Prop :=
  d.Implements c role ∧ ∃ op, d.Requires role op ∧ ¬ d.Binds c op

/-- Of the roles that a class violates this is the least. -/
def ViolatesFirst (d : Declared) (c : Classifier) (role : String) : Prop :=
  d.Violates c role ∧ ∀ other, d.Violates c other → other = role ∨ compare role other = .lt

/-- The operations of a role that a class leaves unbound, in their order. -/
def LeavesUnbound (d : Declared) (c : Classifier) (role : String) (missing : List Operation) :
    Prop :=
  missing.Pairwise (fun op op' => compare op op' = .lt) ∧
    ∀ op, op ∈ missing ↔ d.Requires role op ∧ ¬ d.Binds c op

/-- A class has one first role that it violates. -/
theorem ViolatesFirst.unique {c : Classifier} {role role' : String} (h : d.ViolatesFirst c role)
    (h' : d.ViolatesFirst c role') : role = role' := by
  rcases h.2 role' h'.1 with heq | hlt
  · exact heq.symm
  · rcases h'.2 role h.1 with heq | hlt'
    · exact heq
    · exact absurd hlt' (Std.OrientedCmp.not_lt_of_lt hlt)

/-- A class keeps its contracts exactly when it violates no role. -/
theorem keepsContracts_iff {c : Classifier} :
    d.KeepsContracts c ↔ ∀ role, ¬ d.Violates c role := by
  unfold KeepsContracts Violates
  refine forall_congr' fun role => ?_
  simp only [not_and, not_exists, not_not]

/-- The issue of a class that violates a role. -/
def violation (c : Classifier) (role : String) (missing : List Operation) : Issue :=
  ⟨c.name, .contract (.unbound c.name role missing)⟩

/-- Two equal violations are of one class and one role. -/
theorem violation_inj {c c' : Classifier} {role role' : String} {missing missing' : List Operation}
    (h : violation c role missing = violation c' role' missing') :
    c.name = c'.name ∧ role = role' := by
  obtain ⟨hname, herror⟩ := Issue.mk.inj h
  exact ⟨hname, (ContractError.unbound.inj (GraphError.contract.inj herror)).2.1⟩

section

variable {externals : NameSet} {r : Registry} {c : Classifier} {type : TypeDef}

/-- A class violates those of its roles that its type does not fulfil. -/
theorem Named.violates_iff (hd : d.Named) (hr : (d.declarations externals).build = .ok r)
    (hbinds : ∀ op, op ∈ type.operations ↔ d.Binds c op) {role : String} :
    d.Violates c role ↔ d.Implements c role ∧ ¬ r.Fulfils type role := by
  refine and_congr_right fun himplements => ?_
  rw [hd.fulfils_iff hr himplements.isInterface]
  simp only [hbinds, not_forall, exists_prop]

/-- The operations of a role that are missing of the type of a class are those that the class leaves
unbound. -/
theorem Named.leavesUnbound_of_missing (hd : d.Named)
    (hr : (d.declarations externals).build = .ok r) (htype : r.types[c.name]? = some type)
    (hbinds : ∀ op, op ∈ type.operations ↔ d.Binds c op) {role : String}
    (hrole : d.IsInterface role) {missing : List Operation}
    (h : r.missing c.name role = .ok missing) : d.LeavesUnbound c role missing := by
  obtain ⟨contract, hcontract, rfl⟩ := (Registry.missing_eq_ok_iff htype).mp h
  obtain ⟨contract', hcontract', hrequired⟩ := hd.exists_role hr hrole
  obtain rfl := Option.some.inj (hcontract.symm.trans hcontract')
  refine ⟨Std.ExtTreeSet.ordered_toList.filter _, fun op => ?_⟩
  rw [List.mem_filter, Std.ExtTreeSet.mem_toList, hrequired, ← hbinds, TypeDef.binds,
    Bool.not_eq_true', ← Bool.not_eq_true, ← Std.ExtTreeSet.mem_iff_contains]

/-- What is reported of a class is the first role that it violates. -/
theorem Named.violation_eq_some (hd : d.Named) (houtside : ∀ name ∈ externals, name ∉ d)
    (hr : (d.declarations externals).build = .ok r) (hc : d[c.name]? = some c)
    (hinstances : c.isInstantiable = true) {x : Issue}
    (h : r.violation c.name (d.rolesOf c).toList = some x) :
    ∃ role missing, d.ViolatesFirst c role ∧ d.LeavesUnbound c role missing ∧
      x = violation c role missing := by
  obtain ⟨type, htype, hconcrete, hall, hbinds⟩ :=
    hd.exists_type_of_instance houtside hr hc hinstances
  -- All these roles are known, so that the refusal is for operations that are left unbound.
  have hknown : ∀ role ∈ Registry.allRoles type (d.rolesOf c).toList, role ∈ r.roles := by
    intro role hrole
    obtain ⟨contract, hcontract, -⟩ := hd.exists_role hr ((hall role).mp hrole).isInterface
    exact Ordered.mem_of_getElem? hcontract
  unfold Registry.violation at h
  cases hgrant : r.rolesOfInstance c.name (d.rolesOf c).toList with
  | ok => simp [hgrant] at h
  | error e =>
    rw [hgrant] at h
    obtain ⟨role, hrole, missing, hfails, hfirst, hmissing, rfl⟩ :=
      Registry.rolesOfInstance_eq_error htype hconcrete hknown hgrant
    have himplements := (hall role).mp hrole
    refine ⟨role, missing, ⟨(hd.violates_iff hr hbinds).mpr ⟨himplements, hfails⟩, ?_⟩,
      hd.leavesUnbound_of_missing hr htype hbinds himplements.isInterface hmissing,
      (Option.some.inj h).symm⟩
    intro other hother
    obtain ⟨hother, hfails⟩ := (hd.violates_iff hr hbinds).mp hother
    exact hfirst other ((hall other).mpr hother) hfails

end

end Declared

namespace Instantiation

/-- A role that a class violates is reported, with all operations that the class leaves unbound. -/
def Reports (i : Instantiation) (d : Declared) (c : Classifier) (role : String) : Prop :=
  ∃ missing, d.LeavesUnbound c role missing ∧ Declared.violation c role missing ∈ i.issues

variable {settings : Extraction} {classes : List Classifier} {i : Instantiation}

/-- The issues that are not about links are the violations of the classes. -/
theorem mem_issues_of_instantiate (h : instantiate settings classes = .ok i) :
    let d := Declared.ofList classes
    ∃ r : Registry, (d.declarations (d.outside settings)).build = .ok r ∧
      ∀ x, x ∈ i.issues ∧ x.error.concernsLink = false ↔
        ∃ c, d[c.name]? = some c ∧ c.isInstantiable = true ∧
          r.violation c.name (d.rolesOf c).toList = some x := by
  intro d
  have hd : d.Named := Declared.named_ofList classes
  obtain ⟨r, all, hr, hadds, -⟩ := exists_adds_of_instantiate h
  refine ⟨r, hr, fun x => ?_⟩
  have hclasses : x ∈ (d.made settings r).issues ↔ ∃ c, d[c.name]? = some c ∧
      c.isInstantiable = true ∧ r.violation c.name (d.rolesOf c).toList = some x := by
    simp only [(hd.made_spec hr).1, List.mem_filterMap, hd.mem_instances, and_assoc]
  rw [← hclasses, hadds.issues, List.mem_append]
  constructor
  · rintro ⟨hx | hx, hcontract⟩
    · exact hx
    · -- What was added behind them is about links.
      obtain ⟨v, hv, hx⟩ := List.mem_filterMap.mp hx
      have hresult := (Verdict.issue?_eq_some_iff.mp hx).1
      simp [(hadds.obstructs v hv x.error hresult).concernsLink] at hcontract
  · intro hx
    obtain ⟨c, -, -, hviolation⟩ := hclasses.mp hx
    exact ⟨.inl hx, not_concernsLink_of_violation hviolation⟩

/-- An issue that is not about a link is the first violation of a class. -/
theorem exists_violation_of_mem_issues (h : instantiate settings classes = .ok i) {x : Issue}
    (hx : x ∈ i.issues) (hcontract : x.error.concernsLink = false) :
    let d := Declared.ofList classes
    ∃ c, d[c.name]? = some c ∧ c.isInstantiable = true ∧ ∃ role missing,
      d.ViolatesFirst c role ∧ d.LeavesUnbound c role missing ∧
        x = Declared.violation c role missing := by
  intro d
  have hd : d.Named := Declared.named_ofList classes
  obtain ⟨r, hr, hmem⟩ := mem_issues_of_instantiate h
  obtain ⟨c, hc, hinstances, hviolation⟩ := (hmem x).mp ⟨hx, hcontract⟩
  exact ⟨c, hc, hinstances,
    hd.violation_eq_some hd.notMem_of_mem_outside hr hc hinstances hviolation⟩

/-- Of a class that violates a role the first violation is reported. -/
theorem exists_reports (h : instantiate settings classes = .ok i) {c : Classifier}
    (hc : (Declared.ofList classes)[c.name]? = some c) (hinstances : c.isInstantiable = true)
    {role : String} (hrole : (Declared.ofList classes).Violates c role) :
    ∃ first, (Declared.ofList classes).ViolatesFirst c first ∧
      i.Reports (Declared.ofList classes) c first := by
  have hd : (Declared.ofList classes).Named := Declared.named_ofList classes
  obtain ⟨r, hr, hmem⟩ := mem_issues_of_instantiate h
  cases hviolation : r.violation c.name ((Declared.ofList classes).rolesOf c).toList with
  | none =>
    rw [hd.violation_eq_none_iff hd.notMem_of_mem_outside hr hc hinstances,
      Declared.keepsContracts_iff] at hviolation
    exact absurd hrole (hviolation role)
  | some x =>
    obtain ⟨first, missing, hfirst, hmissing, rfl⟩ :=
      hd.violation_eq_some hd.notMem_of_mem_outside hr hc hinstances hviolation
    exact ⟨first, hfirst, missing, hmissing, ((hmem _).mpr ⟨c, hc, hinstances, hviolation⟩).1⟩

/-- What is reported of a class with instances is the first role that it violates. -/
theorem reports_iff (h : instantiate settings classes = .ok i) {c : Classifier}
    (hc : (Declared.ofList classes)[c.name]? = some c) (hinstances : c.isInstantiable = true)
    {role : String} : i.Reports (Declared.ofList classes) c role ↔
      (Declared.ofList classes).ViolatesFirst c role := by
  constructor
  · rintro ⟨missing, -, hissue⟩
    obtain ⟨c', hc', -, role', missing', hfirst, -, heq⟩ :=
      exists_violation_of_mem_issues h hissue rfl
    -- The issue names its class, and of each name there is one.
    obtain ⟨hname, rfl⟩ := Declared.violation_inj heq
    rw [hname] at hc
    obtain rfl := Option.some.inj (hc.symm.trans hc')
    exact hfirst
  · intro hfirst
    obtain ⟨role', hfirst', hreports⟩ := exists_reports h hc hinstances hfirst.1
    exact hfirst.unique hfirst' ▸ hreports

end Instantiation

/-! ## The main result -/

/-- Of each class with instances, of each name the last, an instantiation reports the first role
that the class violates, with all operations that it leaves unbound, and no other. -/
theorem instantiate_violations {settings : Extraction} {classes : List Classifier}
    {i : Instantiation} (h : instantiate settings classes = .ok i) :
    let d := Declared.ofList classes
    (∀ name : String, d[name]? = classes.reverse.find? fun c => c.name = name) ∧
    (∀ c : Classifier, d[c.name]? = some c → c.isInstantiable = true →
      (∀ role, i.Reports d c role ↔ d.ViolatesFirst c role) ∧
      ((∀ role, d.Violates c role → i.Reports d c role) ↔
        ∀ role other, d.Violates c role → d.Violates c other → role = other)) ∧
    (∀ x ∈ i.issues, x.error.concernsLink = false → ∃ c, d[c.name]? = some c ∧
      c.isInstantiable = true ∧ ∃ role missing, d.ViolatesFirst c role ∧
        d.LeavesUnbound c role missing ∧ x = Declared.violation c role missing) := by
  intro d
  refine ⟨Declared.getElem?_ofList classes, fun c hc hinstances => ?_, fun x hx hcontract =>
    Instantiation.exists_violation_of_mem_issues h hx hcontract⟩
  have hreports : ∀ role, i.Reports d c role ↔ d.ViolatesFirst c role :=
    fun role => Instantiation.reports_iff h hc hinstances
  refine ⟨hreports, fun hall role other hrole hother => ?_, fun hsingle role hrole => ?_⟩
  · exact ((hreports role).mp (hall role hrole)).unique ((hreports other).mp (hall other hother))
  · exact (hreports role).mpr ⟨hrole, fun other hother => .inl (hsingle other role hother hrole)⟩

/-- An interface with one method, which has no parameters. -/
def capability (name method : String) : Classifier where
  name := name
  kind := .interface
  methods := [
    { name := method, returnType := "void", parameters := []
      visibility := .toAll, isAbstract := true }]

/-- A badge that is to have a date and a name, and binds neither. -/
def badge : Classifier where
  name := "Badge"
  kind := .plain
  interfaces := ["Dated", "Named"]

/-- The badge with its two interfaces. -/
def badges : List Classifier := [capability "Dated" "date", capability "Named" "name", badge]

/-- The only issue of the badge is the role that comes first. -/
theorem exists_issues_badges : ∃ i, instantiate {} badges = .ok i ∧
    i.issues = [Declared.violation badge "Dated" [⟨"date", 0⟩]] := by
  have hissues : (instantiate {} badges).map (·.issues) =
      .ok [Declared.violation badge "Dated" [⟨"date", 0⟩]] := by decide +kernel
  exact Outcome.map_eq_ok_iff.mp hissues

/-- The role that is reported of the badge is the first that it violates. -/
theorem violatesFirst_badge :
    ∃ i, instantiate {} badges = .ok i ∧ i.issues.length = 1 ∧
      (Declared.ofList badges).ViolatesFirst badge "Dated" := by
  obtain ⟨i, hi, hissues⟩ := exists_issues_badges
  obtain ⟨-, -, hsound⟩ := instantiate_violations hi
  obtain ⟨c, hc, -, role, missing, hfirst, -, heq⟩ := hsound
    (Declared.violation badge "Dated" [⟨"date", 0⟩]) (hissues ▸ List.mem_singleton_self _) rfl
  obtain ⟨hname, rfl⟩ := Declared.violation_inj heq
  rw [← hname] at hc
  obtain rfl : badge = c := Option.some.inj hc
  exact ⟨i, hi, by rw [hissues, List.length_singleton], hfirst⟩

/-- The badge violates a second role, and that is not reported. -/
theorem not_reports_badge : ∃ i, instantiate {} badges = .ok i ∧
    (Declared.ofList badges)["Badge"]? = some badge ∧ badge.isInstantiable = true ∧
    (Declared.ofList badges).Violates badge "Named" ∧
    ¬ i.Reports (Declared.ofList badges) badge "Named" := by
  obtain ⟨i, hi, hissues⟩ := exists_issues_badges
  have hbadge : (Declared.ofList badges)["Badge"]? = some badge := rfl
  have hnamed : (Declared.ofList badges).IsInterface (capability "Named" "name").name :=
    ⟨_, rfl, rfl⟩
  refine ⟨i, hi, hbadge, rfl, ⟨?_, ⟨"name", 0⟩, ?_, ?_⟩, ?_⟩
  · exact (Declared.mem_rolesOf hbadge).mp (by decide +kernel)
  · exact (Declared.mem_required_role hnamed).mp (by decide +kernel)
  · -- The badge has neither methods nor a superclass.
    rintro ⟨above, hchain, m, hm, -⟩
    rcases hchain.cases_head with rfl | ⟨_, ⟨⟨name, hname, -⟩, -⟩, -⟩
    · exact absurd hm List.not_mem_nil
    · cases hname
  · rintro ⟨missing, -, hissue⟩
    rw [hissues, List.mem_singleton] at hissue
    exact absurd (Declared.violation_inj hissue).2 (by decide)

end ClassGraph
