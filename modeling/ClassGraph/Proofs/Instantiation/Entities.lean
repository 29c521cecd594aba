import ClassGraph.Instantiation.Basic
import ClassGraph.Proofs.Graph.Invariant
import ClassGraph.Proofs.Instantiation.Declared

/-!
# The entities of class models

While entities are made, the graph has no edges, and names and entities correspond one to one
(`Populated`). Making the entity of a class adds its name, also when the class violates a role; then
there is one issue more (`violation`). So before the first link the issues are the violations of the
classes, in their order (`Named.made_spec`), and there are none exactly when all classes keep their
contracts (`Named.issues_made_iff`).
-/

namespace ClassGraph

/-- What a class with these roles violates, if anything. -/
def Registry.violation (r : Registry) (name : String) (roles : List String) : Option Issue :=
  match r.rolesOfInstance name roles with
  | .ok _ => none
  | .error e => some ⟨name, .contract e⟩

namespace Instantiation

/-- The entities of some names have been made, and nothing else. -/
structure Populated (r : Registry) (names : String → Prop) (i : Instantiation) : Prop where
  /-- The graph is well-formed. -/
  wellFormed : i.graph.WellFormed
  /-- The types and roles are those of the registry. -/
  registry : i.graph.registry = r
  /-- There are no edges. -/
  edges : i.graph.edges = ∅
  /-- The entity of a name is the one with this name as its type. -/
  entityOf : ∀ (name : String) (id : EntityId), i.entityOf[name]? = some id ↔
    ∃ entity, i.graph.entities[id]? = some entity ∧ entity.typeTag = name
  /-- These names have an entity. -/
  mem_entityOf : ∀ name, name ∈ i.entityOf ↔ names name

variable {r : Registry} {names : String → Prop} {i : Instantiation}

/-- Nothing has been made in a graph without entities. -/
theorem populated_empty (r : Registry) :
    Populated r (fun _ => False) { graph := .empty r } where
  wellFormed := EntityGraph.wellFormed_empty r
  registry := rfl
  edges := rfl
  entityOf := by simp [EntityGraph.empty]
  mem_entityOf := by simp

/-- An issue changes nothing about the entities that have been made. -/
theorem Populated.addIssue (h : Populated r names i) (className : String) (error : GraphError) :
    Populated r names (i.addIssue className error) :=
  ⟨h.wellFormed, h.registry, h.edges, h.entityOf, h.mem_entityOf⟩

/-- Entities that have been made for some names have been made for the same names said otherwise. -/
theorem Populated.congr (h : Populated r names i) {names' : String → Prop}
    (hnames : ∀ name, names name ↔ names' name) : Populated r names' i :=
  ⟨h.wellFormed, h.registry, h.edges, h.entityOf, fun name =>
    (h.mem_entityOf name).trans (hnames name)⟩

/-- Where only entities have been made, there are no edges. -/
theorem Populated.allEdges_eq_nil (h : Populated r names i) : i.graph.allEdges = [] := by
  rw [EntityGraph.allEdges, h.edges]
  rfl

/-! ## One entity -/

/-- An entity is refused when its type cannot have the roles. -/
theorem create_of_error {name : String} {roles : List String} {e : ContractError}
    (he : i.graph.registry.rolesOfInstance name roles = .error e) :
    i.create name roles = .error (.contract e) := by
  unfold create EntityGraph.create
  rw [he]
  rfl

/-- A new name gets an entity when its type can have the roles. -/
theorem Populated.create (h : Populated r names i) {name : String} (hfresh : ¬ names name)
    {roles : List String} {all : NameSet} (hroles : r.rolesOfInstance name roles = .ok all) :
    ∃ i', i.create name roles = .ok i' ∧ i'.issues = i.issues ∧
      Populated r (fun n => n = name ∨ names n) i' := by
  obtain ⟨x, hx⟩ : ∃ x : EntityId, x = ⟨i.graph.nextEntity⟩ := ⟨_, rfl⟩
  obtain ⟨g', hg'⟩ : ∃ g' : EntityGraph, g' = { i.graph with
      entities := i.graph.entities.insert x { id := x, typeTag := name, roles := all }
      outgoing := i.graph.outgoing.insert x ∅
      incoming := i.graph.incoming.insert x ∅
      nextEntity := i.graph.nextEntity + 1 } := ⟨_, rfl⟩
  have hcreate : i.graph.create name roles = .ok (x, g') :=
    EntityGraph.create_eq_ok_iff.mpr ⟨all, h.registry.symm ▸ hroles, hx, hg'⟩
  have hfree : i.graph.entities[x]? = none :=
    (getElem?_eq_none_iff _ _).mpr (hx ▸ h.wellFormed.nextEntity_notMem)
  have hentities : ∀ y : EntityId, g'.entities[y]? =
      if y = x then some { id := x, typeTag := name, roles := all } else i.graph.entities[y]? := by
    intro y
    rw [hg', Ordered.getElem?_insert]
  refine ⟨{ i with graph := g', entityOf := i.entityOf.insert name x }, ?_, rfl, ?_⟩
  · unfold Instantiation.create
    rw [hcreate]
    rfl
  refine {
    wellFormed := h.wellFormed.create hcreate
    registry := hg' ▸ h.registry
    edges := hg' ▸ h.edges
    entityOf := ?_
    mem_entityOf := ?_ }
  · intro n y
    rw [Ordered.getElem?_insert, hentities]
    by_cases hy : y = x
    · -- The new number belongs to the new name only.
      have hold : i.entityOf[n]? ≠ some x := by
        rw [Ne, h.entityOf, hfree]
        simp
      by_cases hn : n = name
      · simp [hy, hn]
      · simp [hy, hn, hold, Ne.symm hn]
    · rw [if_neg hy]
      by_cases hn : n = name
      · -- No entity that was there has the new name.
        have hold : name ∉ i.entityOf := fun hmem => hfresh ((h.mem_entityOf name).mp hmem)
        rw [← h.entityOf, hn, (getElem?_eq_none_iff _ _).mpr hold]
        simp [Ne.symm hy]
      · rw [if_neg hn, h.entityOf]
  · intro n
    rw [Ordered.mem_insert, h.mem_entityOf]

/-- A new name gets its entity without an issue when its type can have the roles. -/
theorem Populated.createOrReport (h : Populated r names i) {name : String} (hfresh : ¬ names name)
    {roles : List String} {all : NameSet} (hroles : r.rolesOfInstance name roles = .ok all) :
    (i.createOrReport name roles).issues = i.issues ∧
      Populated r (fun n => n = name ∨ names n) (i.createOrReport name roles) := by
  obtain ⟨i', hcreate, hissues, hpopulated⟩ := h.create hfresh hroles
  unfold Instantiation.createOrReport
  rw [hcreate]
  exact ⟨hissues, hpopulated⟩

/-- The roles that are kept are those that the type fulfils. -/
theorem mem_fulfilled {name : String} {type : TypeDef} (htype : r.types[name]? = some type)
    {roles : List String} {role : String} :
    role ∈ fulfilled r name roles ↔ role ∈ roles ∧ r.Fulfils type role := by
  rw [fulfilled, List.mem_filter, Registry.fulfils_iff_missing htype]
  refine and_congr_right fun _ => ?_
  cases r.missing name role with
  | error e => simp
  | ok operations => simp

/-- A new class gets its entity, with an issue when it violates a role. -/
theorem Populated.addClass (h : Populated r names i) {name : String} (hfresh : ¬ names name)
    {type : TypeDef} (htype : r.types[name]? = some type) (hconcrete : type.isAbstract = false)
    (hroles : ∀ role, role ∉ type.roles) {roles : List String}
    (hknown : ∀ role ∈ roles, role ∈ r.roles) :
    (i.addClass name roles).issues = i.issues ++ (r.violation name roles).toList ∧
      Populated r (fun n => n = name ∨ names n) (i.addClass name roles) := by
  unfold Instantiation.addClass Registry.violation
  cases hgrant : r.rolesOfInstance name roles with
  | ok all =>
    obtain ⟨i', hcreate, hissues, hpopulated⟩ := h.create hfresh hgrant
    rw [hcreate]
    exact ⟨hissues.trans (List.append_nil _).symm, hpopulated⟩
  | error e =>
    have hall : ∀ {requested : List String} {role : String},
        role ∈ Registry.allRoles type requested ↔ role ∈ requested := by
      intro requested role
      rw [Registry.mem_allRoles, or_iff_right (hroles role)]
    obtain ⟨role, -, operations, -, -, -, rfl⟩ := Registry.rolesOfInstance_eq_error htype hconcrete
      (fun role hrole => hknown role (hall.mp hrole)) hgrant
    -- The roles that are kept are fulfilled, so that the second attempt does not fail.
    have hfulfilled : r.rolesOfInstance name (fulfilled r name roles) =
        .ok (Registry.allRoles type (fulfilled r name roles)) := by
      refine (Registry.rolesOfInstance_eq_ok_iff htype hconcrete).mpr ⟨rfl, fun role hrole => ?_⟩
      exact ((mem_fulfilled htype).mp (hall.mp hrole)).2
    rw [create_of_error (h.registry.symm ▸ hgrant)]
    dsimp only
    rw [h.registry]
    exact (h.addIssue _ _).createOrReport hfresh hfulfilled

/-! ## All entities -/

/-- A fold whose step makes the entity of one new name makes the entities of different new names,
and their issues are in the order of the names. -/
theorem Populated.foldl {α : Type} {step : Instantiation → α → Instantiation} {nameOf : α → String}
    {issueOf : α → Option Issue} {valid : α → Prop}
    (hstep : ∀ {names : String → Prop} {i : Instantiation}, Populated r names i →
      ∀ a, valid a → ¬ names (nameOf a) →
        (step i a).issues = i.issues ++ (issueOf a).toList ∧
          Populated r (fun n => n = nameOf a ∨ names n) (step i a)) (items : List α) :
    ∀ {names : String → Prop} {i : Instantiation}, Populated r names i →
      (∀ a ∈ items, valid a) → (∀ a ∈ items, ¬ names (nameOf a)) →
      items.Pairwise (fun a b => nameOf a ≠ nameOf b) →
        (items.foldl step i).issues = i.issues ++ items.filterMap issueOf ∧
          Populated r (fun n => (∃ a ∈ items, nameOf a = n) ∨ names n) (items.foldl step i) := by
  induction items with
  | nil =>
    intro names i h _ _ _
    simpa using h
  | cons a items ih =>
    intro names i h hvalid hfresh hpairwise
    rw [List.forall_mem_cons] at hvalid hfresh
    rw [List.pairwise_cons] at hpairwise
    obtain ⟨hissues, hpopulated⟩ := hstep h a hvalid.1 hfresh.1
    -- The names behind the first are new also beside it.
    have hfresh' : ∀ b ∈ items, ¬ (nameOf b = nameOf a ∨ names (nameOf b)) := fun b hb hname =>
      hname.elim (fun hname => hpairwise.1 b hb hname.symm) (hfresh.2 b hb)
    obtain ⟨hissues', hpopulated'⟩ := ih hpopulated hvalid.2 hfresh' hpairwise.2
    rw [List.foldl_cons]
    refine ⟨?_, hpopulated'.congr fun n => ?_⟩
    · rw [hissues', hissues, List.append_assoc, List.filterMap_cons]
      cases issueOf a <;> rfl
    · rw [or_left_comm, List.exists_mem_cons_iff, or_assoc, eq_comm]

/-- A type of which entities can be made, with no roles of its own. -/
def Plain (r : Registry) (name : String) : Prop :=
  ∃ type, r.types[name]? = some type ∧ type.isAbstract = false ∧ ∀ role, role ∉ type.roles

/-- Classes of different new names get their entities, and their violations are the issues. -/
theorem Populated.foldl_addClass (h : Populated r names i) {d : Declared}
    (instances : List Classifier)
    (hvalid : ∀ c ∈ instances, Plain r c.name ∧ ∀ role ∈ d.rolesOf c, role ∈ r.roles)
    (hfresh : ∀ c ∈ instances, ¬ names c.name)
    (hpairwise : instances.Pairwise fun c c' => c.name ≠ c'.name) :
    (instances.foldl (fun i c => i.addClass c.name (d.rolesOf c).toList) i).issues =
        i.issues ++ instances.filterMap (fun c => r.violation c.name (d.rolesOf c).toList) ∧
      Populated r (fun n => (∃ c ∈ instances, c.name = n) ∨ names n)
        (instances.foldl (fun i c => i.addClass c.name (d.rolesOf c).toList) i) := by
  refine Populated.foldl (fun hi c hc hnew => ?_) instances h hvalid hfresh hpairwise
  obtain ⟨⟨type, htype, hconcrete, hroles⟩, hknown⟩ := hc
  exact hi.addClass hnew htype hconcrete hroles
    fun role hrole => hknown role (Std.ExtTreeSet.mem_toList.mp hrole)

/-- Different new names of types without roles get their entities without issues. -/
theorem Populated.foldl_createOrReport (h : Populated r names i) (outside : List String)
    (hvalid : ∀ name ∈ outside, Plain r name) (hfresh : ∀ name ∈ outside, ¬ names name)
    (hnodup : outside.Nodup) :
    (outside.foldl (fun i name => i.createOrReport name []) i).issues = i.issues ∧
      Populated r (fun n => n ∈ outside ∨ names n)
        (outside.foldl (fun i name => i.createOrReport name []) i) := by
  have hstep : ∀ {names : String → Prop} {i : Instantiation}, Populated r names i →
      ∀ name, Plain r name → ¬ names name →
        (i.createOrReport name []).issues = i.issues ++ (none : Option Issue).toList ∧
          Populated r (fun n => n = name ∨ names n) (i.createOrReport name []) := by
    rintro names i hi name ⟨type, htype, hconcrete, hroles⟩ hnew
    have hgrant : r.rolesOfInstance name [] = .ok (Registry.allRoles type []) := by
      refine (Registry.rolesOfInstance_eq_ok_iff htype hconcrete).mpr ⟨rfl, fun role hrole => ?_⟩
      exact absurd hrole (by simp [Registry.mem_allRoles, hroles])
    rw [Option.toList_none, List.append_nil]
    exact hi.createOrReport hnew hgrant
  obtain ⟨hissues, hpopulated⟩ := Populated.foldl hstep outside h hvalid hfresh hnodup
  refine ⟨?_, hpopulated.congr fun n => ?_⟩
  · rw [hissues, List.filterMap_eq_nil_iff.mpr fun _ _ => rfl, List.append_nil]
  · rw [exists_eq_right]

end Instantiation

/-! ## What an instantiation begins with -/

namespace Declared

variable {d : Declared}

/-- A name has an entity: its class has instances, or it is the outside target of a relation and
such targets are included. -/
def HasEntity (d : Declared) (settings : Extraction) (name : String) : Prop :=
  (∃ c, d[name]? = some c ∧ c.isInstantiable = true) ∨
    settings.includeExternal = true ∧ name ∉ d ∧
      ∃ (other : String) (c : Classifier), d[other]? = some c ∧ ∃ r ∈ c.relations, r.target = name

/-- A class keeps its contracts: it binds all operations that the roles it implements require. -/
def KeepsContracts (d : Declared) (c : Classifier) : Prop :=
  ∀ role, d.Implements c role → ∀ op, d.Requires role op → d.Binds c op

/-- The outside names for which types are declared. -/
def outside (d : Declared) (settings : Extraction) : NameSet :=
  if settings.includeExternal then d.external else ∅

/-- The names outside are the targets of relations that are not declared, when these are wanted. -/
theorem Named.mem_outside (hd : d.Named) {settings : Extraction} {name : String} :
    name ∈ d.outside settings ↔ settings.includeExternal = true ∧ name ∉ d ∧
      ∃ (other : String) (c : Classifier),
        d[other]? = some c ∧ ∃ r ∈ c.relations, r.target = name := by
  unfold outside external
  split_ifs with hinclude
  · rw [Ordered.mem_set_ofList, List.mem_filter, Bool.not_eq_true', ← Bool.not_eq_true,
      ← Std.ExtTreeMap.mem_iff_contains, and_comm, and_iff_right hinclude]
    refine and_congr_right fun _ => ?_
    simp only [List.mem_flatMap, List.mem_map, hd.mem_classes]
    constructor
    · rintro ⟨c, hc, hr⟩
      exact ⟨c.name, c, hc, hr⟩
    · rintro ⟨other, c, hc, hr⟩
      exact ⟨c, (hd hc).symm ▸ hc, hr⟩
  · simp [hinclude]

/-- The outside names are not declared. -/
theorem Named.notMem_of_mem_outside (hd : d.Named) {settings : Extraction} :
    ∀ name ∈ d.outside settings, name ∉ d :=
  fun _ hname => (hd.mem_outside.mp hname).2.1

/-- What can be instantiated is no interface. -/
theorem kind_ne_interface {c : Classifier} (h : c.isInstantiable = true) : c.kind ≠ .interface := by
  intro hkind
  simp [Classifier.isInstantiable, hkind] at h

/-- In a registry that could be built, a class with instances has a type that can be made. With the
roles of the class, an instance carries what the class implements. -/
theorem Named.exists_type_of_instance (hd : d.Named) {externals : NameSet}
    (houtside : ∀ name ∈ externals, name ∉ d) {r : Registry}
    (hr : (d.declarations externals).build = .ok r) {c : Classifier}
    (hc : d[c.name]? = some c) (hinstances : c.isInstantiable = true) :
    ∃ type, r.types[c.name]? = some type ∧ type.isAbstract = false ∧
      (∀ role, role ∈ Registry.allRoles type (d.rolesOf c).toList ↔ d.Implements c role) ∧
      ∀ op, op ∈ type.operations ↔ d.Binds c op := by
  obtain ⟨type, htype, habstract, hroles, hbinds⟩ :=
    hd.exists_type_of_class houtside hr hc (kind_ne_interface hinstances)
  refine ⟨type, htype, by rw [habstract, hinstances, Bool.not_true], fun role => ?_, hbinds⟩
  rw [Registry.mem_allRoles, or_iff_right (hroles role), Std.ExtTreeSet.mem_toList, mem_rolesOf hc]

/-- A class violates nothing exactly when it keeps its contracts. -/
theorem Named.violation_eq_none_iff (hd : d.Named) {externals : NameSet}
    (houtside : ∀ name ∈ externals, name ∉ d) {r : Registry}
    (hr : (d.declarations externals).build = .ok r) {c : Classifier}
    (hc : d[c.name]? = some c) (hinstances : c.isInstantiable = true) :
    r.violation c.name (d.rolesOf c).toList = none ↔ d.KeepsContracts c := by
  obtain ⟨type, htype, hconcrete, hall, hbinds⟩ :=
    hd.exists_type_of_instance houtside hr hc hinstances
  have hnone : r.violation c.name (d.rolesOf c).toList = none ↔
      ∃ roles, r.rolesOfInstance c.name (d.rolesOf c).toList = .ok roles := by
    unfold Registry.violation
    cases r.rolesOfInstance c.name (d.rolesOf c).toList <;> simp
  simp only [hnone, Registry.rolesOfInstance_eq_ok_iff htype hconcrete, exists_eq_left, hall]
  refine forall_congr' fun role => forall_congr' fun himplements => ?_
  rw [hd.fulfils_iff hr himplements.isInterface]
  simp only [hbinds]

end Declared

namespace Declared

variable {d : Declared}

/-- The classes that have instances. -/
def instances (d : Declared) : List Classifier := d.classes.filter (·.isInstantiable)

/-- The instances are the declared classes that can be instantiated. -/
theorem Named.mem_instances (hd : d.Named) {c : Classifier} :
    c ∈ d.instances ↔ d[c.name]? = some c ∧ c.isInstantiable = true := by
  rw [instances, List.mem_filter, hd.mem_classes]

/-- The names of the classes with instances. -/
theorem Named.exists_mem_instances_iff (hd : d.Named) {name : String} :
    (∃ c ∈ d.instances, c.name = name) ↔ ∃ c, d[name]? = some c ∧ c.isInstantiable = true := by
  simp only [hd.mem_instances]
  constructor
  · rintro ⟨c, hc, rfl⟩
    exact ⟨c, hc⟩
  · rintro ⟨c, hc, hinstances⟩
    obtain rfl := hd hc
    exact ⟨c, ⟨hc, hinstances⟩, rfl⟩

/-- In a registry that could be built, a class with instances has a type that can be made, and all
its roles are known. -/
theorem Named.valid_of_mem_instances (hd : d.Named) {externals : NameSet}
    (houtside : ∀ name ∈ externals, name ∉ d) {r : Registry}
    (hr : (d.declarations externals).build = .ok r) :
    ∀ c ∈ d.instances, Instantiation.Plain r c.name ∧ ∀ role ∈ d.rolesOf c, role ∈ r.roles := by
  intro c hc
  obtain ⟨hc, hinstances⟩ := hd.mem_instances.mp hc
  refine ⟨?_, fun role hrole => ?_⟩
  · obtain ⟨type, htype, habstract, hroles, -⟩ :=
      hd.exists_type_of_class houtside hr hc (kind_ne_interface hinstances)
    exact ⟨type, htype, by rw [habstract, hinstances, Bool.not_true], hroles⟩
  · have himplements := (mem_rolesOf hc).mp hrole
    obtain ⟨contract, hcontract, -⟩ := hd.exists_role hr himplements.isInterface
    exact Ordered.mem_of_getElem? hcontract

/-- The instantiation before the first link: the entities of the classes, then those of the outside
names. -/
def made (d : Declared) (settings : Extraction) (r : Registry) : Instantiation :=
  (d.outside settings).toList.foldl (fun i name => i.createOrReport name [])
    (d.instances.foldl (fun i c => i.addClass c.name (d.rolesOf c).toList) { graph := .empty r })

variable {settings : Extraction} {r : Registry}

/-- Before the first link, the names with an entity have theirs, and the issues are the violations
of the classes. -/
theorem Named.made_spec (hd : d.Named)
    (hr : (d.declarations (d.outside settings)).build = .ok r) :
    (d.made settings r).issues =
        d.instances.filterMap (fun c => r.violation c.name (d.rolesOf c).toList) ∧
      (d.made settings r).Populated r (d.HasEntity settings) := by
  have houtside : ∀ name ∈ d.outside settings, name ∉ d := hd.notMem_of_mem_outside
  obtain ⟨hissues, hclasses⟩ := (Instantiation.populated_empty r).foldl_addClass d.instances
    (hd.valid_of_mem_instances houtside hr) (fun _ _ => id) (hd.pairwise_classes.filter _)
  have hfresh : ∀ name ∈ (d.outside settings).toList,
      ¬ ((∃ c ∈ d.instances, c.name = name) ∨ False) := by
    intro name hname hclass
    rw [or_false, hd.exists_mem_instances_iff] at hclass
    obtain ⟨c, hc, -⟩ := hclass
    exact houtside name (Std.ExtTreeSet.mem_toList.mp hname) (Ordered.mem_of_getElem? hc)
  obtain ⟨hissues', hall⟩ := hclasses.foldl_createOrReport (d.outside settings).toList
    (fun name hname =>
      hd.exists_type_of_outside houtside hr (Std.ExtTreeSet.mem_toList.mp hname))
    hfresh (Ordered.nodup_toList _)
  refine ⟨hissues'.trans hissues, hall.congr fun name => ?_⟩
  rw [or_false, Std.ExtTreeSet.mem_toList, hd.mem_outside, hd.exists_mem_instances_iff, or_comm,
    HasEntity]

/-- Before the first link, there are no issues exactly when all classes keep their contracts. -/
theorem Named.issues_made_iff (hd : d.Named)
    (hr : (d.declarations (d.outside settings)).build = .ok r) :
    (d.made settings r).issues = [] ↔
      ∀ c, d[c.name]? = some c → c.isInstantiable = true → d.KeepsContracts c := by
  have houtside : ∀ name ∈ d.outside settings, name ∉ d := hd.notMem_of_mem_outside
  rw [(hd.made_spec hr).1, List.filterMap_eq_nil_iff]
  refine forall_congr' fun c => ?_
  rw [hd.mem_instances, and_imp]
  exact forall_congr' fun hc => forall_congr' fun hinstances =>
    hd.violation_eq_none_iff houtside hr hc hinstances

end Declared

/-- An instantiation makes the entities first, then adds the links of the classes. -/
theorem instantiate_eq_ok_iff {settings : Extraction} {classes : List Classifier}
    {i : Instantiation} :
    let d := Declared.ofList classes
    instantiate settings classes = .ok i ↔
      ∃ r, (d.declarations (d.outside settings)).build = .ok r ∧
        i = d.classes.foldl Instantiation.addLinks (d.made settings r) := by
  intro d
  have hbuild : ((Declared.ofList classes).declarations (if settings.includeExternal then
      (Declared.ofList classes).external else ∅)).build =
        (d.declarations (d.outside settings)).build := rfl
  unfold instantiate
  dsimp only
  rw [hbuild]
  cases (d.declarations (d.outside settings)).build with
  | error e => simp
  | ok r =>
    simp only [Except.ok.injEq, exists_eq_left']
    exact eq_comm

end ClassGraph
