import ClassGraph.Proofs.Instantiation.Verdicts
import ClassGraph.Proofs.Registry.Subtyping

/-!
# Instances of subtypes

The entity of a class carries the roles that the class implements and whose operations it binds, all
of them and no others (`Declared.Satisfies`, `satisfies_iff`): a role that is not fulfilled is left
out, and the others are kept. A chain of bases passes on both what is implemented and what is bound,
and a chain of interfaces leads to fewer requirements, also where interfaces extend each other in a
circle. So an instance of a subtype can stand for one of its base, and an instance with the role of
an interface for one with the role of any interface above it (`instantiate_substitutable`).
-/

open Relation

namespace ClassGraph

namespace Declared

variable {d : Declared}

/-! ## Roles that classes satisfy -/

/-- A class satisfies a role: it implements it and binds all operations that it requires. -/
def Satisfies (d : Declared) (name role : String) : Prop :=
  ∃ c, d[name]? = some c ∧ d.Implements c role ∧ ∀ op, d.Requires role op → d.Binds c op

/-- What a class above implements is implemented. -/
theorem Implements.of_super {c above : Classifier} {role : String} (h : d.Implements above role)
    (hchain : ReflTransGen d.Super c above) : d.Implements c role := by
  obtain ⟨top, htop, hfirst⟩ := h
  exact ⟨top, hchain.trans htop, hfirst⟩

/-- An interface above one that is implemented is implemented. -/
theorem Implements.of_refines {c : Classifier} {role above : String} (h : d.Implements c role)
    (hchain : ReflTransGen d.Refines role above) : d.Implements c above := by
  obtain ⟨top, htop, first, hfirst, hinterface, hrole⟩ := h
  exact ⟨top, htop, first, hfirst, hinterface, hrole.trans hchain⟩

/-- What a base binds is bound. -/
theorem Binds.of_base {c base : Classifier} {op : Operation} (h : d.Binds base op)
    (hchain : ReflTransGen d.Base c base) : d.Binds c op := by
  obtain ⟨above, habove, hm⟩ := h
  exact ⟨above, hchain.trans habove, hm⟩

/-- What an interface above requires is required. -/
theorem Requires.of_refines {role above : String} {op : Operation} (h : d.Requires above op)
    (hchain : ReflTransGen d.Refines role above) : d.Requires role op := by
  obtain ⟨name, hname, hm⟩ := h
  exact ⟨name, hchain.trans hname, hm⟩

/-- A class to which a chain of bases leads is declared under its name. -/
theorem Named.getElem?_of_chain (hd : d.Named) {c base : Classifier} (hc : d[c.name]? = some c)
    (hchain : ReflTransGen d.Base c base) : d[base.name]? = some base := by
  rcases hchain.cases_tail with rfl | ⟨below, -, ⟨name, -, hbase⟩, -⟩
  · exact hc
  · rwa [hd hbase]

/-- A class satisfies the roles that its bases satisfy. -/
theorem Named.satisfies_of_base (hd : d.Named) {c base : Classifier} (hc : d[c.name]? = some c)
    (hchain : ReflTransGen d.Base c base) {role : String} (h : d.Satisfies base.name role) :
    d.Satisfies c.name role := by
  obtain ⟨base', hbase', himplements, hbinds⟩ := h
  have hbase : d[base.name]? = some base := hd.getElem?_of_chain hc hchain
  obtain rfl := Option.some.inj (hbase.symm.trans hbase')
  have hsuper : ReflTransGen d.Super c base :=
    ReflTransGen.mono (fun _ _ hstep => hstep.1) _ _ hchain
  exact ⟨c, hc, himplements.of_super hsuper, fun op hop => (hbinds op hop).of_base hchain⟩

/-- A class that satisfies the role of an interface satisfies those of the interfaces above it. -/
theorem Satisfies.of_refines {name role above : String} (h : d.Satisfies name role)
    (hchain : ReflTransGen d.Refines role above) : d.Satisfies name above := by
  obtain ⟨c, hc, himplements, hbinds⟩ := h
  exact ⟨c, hc, himplements.of_refines hchain, fun op hop => hbinds op (hop.of_refines hchain)⟩

/-! ## Subtypes -/

section

variable {externals : NameSet} {r : Registry}

/-- Every type of the declared classes stands under its own name. -/
theorem Named.tagged (hd : d.Named) (houtside : ∀ name ∈ externals, name ∉ d) :
    (d.declarations externals).Tagged := by
  intro tag decl hdecl
  rcases (hd.getElem?_types houtside).mp hdecl with ⟨c, hc, -, rfl⟩ | ⟨-, rfl⟩
  · exact hd hc
  · rfl

/-- A class is a subtype of those to which a chain of bases leads, and an outside name of itself. -/
theorem Named.isSubtype_iff (hd : d.Named) (houtside : ∀ name ∈ externals, name ∉ d)
    (hr : (d.declarations externals).build = .ok r) {name ancestor : String} :
    r.isSubtype name ancestor = true ↔
      (∃ c base, d[name]? = some c ∧ c.kind ≠ .interface ∧ ReflTransGen d.Base c base ∧
        base.name = ancestor) ∨ name ∈ externals ∧ name = ancestor := by
  rw [Declarations.isSubtype_iff (hd.tagged houtside) hr]
  simp only [hd.getElem?_types houtside]
  constructor
  · rintro ⟨_, above, ⟨c, hc, hkind, rfl⟩ | ⟨hname, rfl⟩, hchain, rfl⟩
    · obtain ⟨base, hbase, rfl⟩ := (hd.reflTransGen_extends_iff houtside).mp hchain
      exact .inl ⟨c, base, hc, hkind, hbase, rfl⟩
    · -- An outside name has no base.
      rcases hchain.cases_head with rfl | ⟨_, ⟨tag, htag, -⟩, -⟩
      · exact .inr ⟨hname, rfl⟩
      · cases htag
  · rintro (⟨c, base, hc, hkind, hchain, rfl⟩ | ⟨hname, rfl⟩)
    · exact ⟨d.type c, d.type base, .inl ⟨c, hc, hkind, rfl⟩,
        (hd.reflTransGen_extends_iff houtside).mpr ⟨base, hchain, rfl⟩, rfl⟩
    · exact ⟨_, _, .inr ⟨hname, rfl⟩, .refl, rfl⟩

/-- An instance of a class carries exactly the roles that the class satisfies, when it was granted
after asking for all of these and for none that the class does not implement. -/
theorem Named.mem_roles_iff (hd : d.Named) (houtside : ∀ name ∈ externals, name ∉ d)
    (hr : (d.declarations externals).build = .ok r) {c : Classifier} (hc : d[c.name]? = some c)
    (hinstances : c.isInstantiable = true) {requested : List String}
    (hsound : ∀ role ∈ requested, d.Implements c role)
    (hcomplete : ∀ role, d.Satisfies c.name role → role ∈ requested) {all : NameSet}
    (hall : r.rolesOfInstance c.name requested = .ok all) (role : String) :
    role ∈ all ↔ d.Satisfies c.name role := by
  obtain ⟨type, htype, hconcrete, hroles, hbinds⟩ :=
    hd.exists_type_of_class houtside hr hc (kind_ne_interface hinstances)
  have htype' : type.isAbstract = false := by rw [hconcrete, hinstances, Bool.not_true]
  obtain ⟨hall, hfulfils⟩ := (Registry.rolesOfInstance_eq_ok_iff htype htype').mp hall
  have hmem : role ∈ all ↔ role ∈ requested := by
    rw [hall, Registry.mem_allRoles, or_iff_right (hroles role)]
  constructor
  · intro hrole
    have himplements : d.Implements c role := hsound role (hmem.mp hrole)
    have hrequired := (hd.fulfils_iff hr himplements.isInterface).mp (hfulfils role hrole)
    exact ⟨c, hc, himplements, fun op hop => (hbinds op).mp (hrequired op hop)⟩
  · exact fun hsatisfies => hmem.mpr (hcomplete role hsatisfies)

end

end Declared

namespace Instantiation

variable {d : Declared} {r : Registry} {i i' : Instantiation} {name : String} {roles : List String}

/-! ## Roles of entities -/

/-- Every entity carries the roles that the class of its name satisfies, and the types are those of
the registry. -/
structure Faithful (d : Declared) (r : Registry) (i : Instantiation) : Prop where
  /-- The types and roles are those of the registry. -/
  registry : i.graph.registry = r
  /-- The roles of an entity are those that its class satisfies. -/
  roles : ∀ (x : EntityId) (entity : Entity), i.graph.entities[x]? = some entity →
    ∀ role, role ∈ entity.roles ↔ d.Satisfies entity.typeTag role

/-- A new entity is like the others when it is granted what its class satisfies. -/
theorem Faithful.create (h : Faithful d r i)
    (hroles : ∀ all, r.rolesOfInstance name roles = .ok all →
      ∀ role, role ∈ all ↔ d.Satisfies name role)
    (hcreate : i.create name roles = .ok i') : Faithful d r i' := by
  obtain ⟨⟨x, g'⟩, hgraph, rfl⟩ := Outcome.map_eq_ok_iff.mp hcreate
  obtain ⟨all, hall, -, rfl⟩ := EntityGraph.create_eq_ok_iff.mp hgraph
  rw [h.registry] at hall
  refine ⟨h.registry, fun y entity hy => ?_⟩
  rw [Ordered.getElem?_insert] at hy
  split_ifs at hy
  · obtain rfl := Option.some.inj hy
    exact hroles all hall
  · exact h.roles y entity hy

/-- An entity that is created with the roles that its class satisfies keeps all roles right. -/
theorem Faithful.createOrReport (h : Faithful d r i)
    (hroles : ∀ all, r.rolesOfInstance name roles = .ok all →
      ∀ role, role ∈ all ↔ d.Satisfies name role) :
    Faithful d r (i.createOrReport name roles) := by
  unfold Instantiation.createOrReport
  cases hcreate : i.create name roles with
  | ok i' => exact h.create hroles hcreate
  | error => exact ⟨h.registry, h.roles⟩

/-- The entity of a class is granted what the class satisfies, on the first attempt or, when the
class violates a role, on the second. -/
theorem Faithful.addClass (h : Faithful d r i) (hd : d.Named) {externals : NameSet}
    (houtside : ∀ name ∈ externals, name ∉ d) (hr : (d.declarations externals).build = .ok r)
    {c : Classifier} (hc : d[c.name]? = some c) (hinstances : c.isInstantiable = true) :
    Faithful d r (i.addClass c.name (d.rolesOf c).toList) := by
  obtain ⟨type, htype, -, -, hbinds⟩ :=
    hd.exists_type_of_class houtside hr hc (Declared.kind_ne_interface hinstances)
  have himplements : ∀ role, role ∈ (d.rolesOf c).toList ↔ d.Implements c role := by
    intro role
    rw [Std.ExtTreeSet.mem_toList, Declared.mem_rolesOf hc]
  have hfulfilled : ∀ role, role ∈ fulfilled r c.name (d.rolesOf c).toList ↔
      d.Implements c role ∧ r.Fulfils type role := by
    intro role
    rw [mem_fulfilled htype, himplements]
  have hsatisfies : ∀ role, d.Satisfies c.name role →
      d.Implements c role ∧ r.Fulfils type role := by
    rintro role ⟨c', hc', hrole, hbound⟩
    obtain rfl := Option.some.inj (hc.symm.trans hc')
    refine ⟨hrole, (hd.fulfils_iff hr hrole.isInterface).mpr fun op hop => ?_⟩
    exact (hbinds op).mpr (hbound op hop)
  have hfirst : ∀ all, r.rolesOfInstance c.name (d.rolesOf c).toList = .ok all →
      ∀ role, role ∈ all ↔ d.Satisfies c.name role := fun all hall =>
    hd.mem_roles_iff houtside hr hc hinstances (fun role hrole => (himplements role).mp hrole)
      (fun role hrole => (himplements role).mpr (hsatisfies role hrole).1) hall
  have hsecond : ∀ all,
      r.rolesOfInstance c.name (fulfilled r c.name (d.rolesOf c).toList) = .ok all →
        ∀ role, role ∈ all ↔ d.Satisfies c.name role := fun all hall =>
    hd.mem_roles_iff houtside hr hc hinstances (fun role hrole => ((hfulfilled role).mp hrole).1)
      (fun role hrole => (hfulfilled role).mpr (hsatisfies role hrole)) hall
  unfold Instantiation.addClass
  split
  · rename_i hcreate
    exact h.create hfirst hcreate
  · rw [h.registry]
    have hreported : ∀ error, Faithful d r (i.addIssue c.name error) :=
      fun _ => ⟨h.registry, h.roles⟩
    exact (hreported _).createOrReport hsecond
  · exact ⟨h.registry, h.roles⟩

/-- Before the first link, every entity carries what its class satisfies. -/
theorem faithful_made (hd : d.Named) {settings : Extraction}
    (hr : (d.declarations (d.outside settings)).build = .ok r) :
    Faithful d r (d.made settings r) := by
  have houtside : ∀ name ∈ d.outside settings, name ∉ d := hd.notMem_of_mem_outside
  have hempty : Faithful d r { graph := .empty r } := ⟨rfl, by simp [EntityGraph.empty]⟩
  have hclasses : Faithful d r
      (d.instances.foldl (fun i c => i.addClass c.name (d.rolesOf c).toList)
        { graph := .empty r }) := by
    refine List.foldlRecOn d.instances _ hempty fun i hi c hc => ?_
    obtain ⟨hc, hinstances⟩ := hd.mem_instances.mp hc
    exact hi.addClass hd houtside hr hc hinstances
  refine List.foldlRecOn (d.outside settings).toList _ hclasses fun i hi name hname => ?_
  have houter : name ∈ d.outside settings := Std.ExtTreeSet.mem_toList.mp hname
  refine hi.createOrReport fun all hall role => ?_
  -- An outside name has no roles, and no class of this name satisfies any.
  obtain ⟨type, htype, hconcrete, hroles⟩ := hd.exists_type_of_outside houtside hr houter
  obtain ⟨rfl, -⟩ := (Registry.rolesOfInstance_eq_ok_iff htype hconcrete).mp hall
  have hnone : role ∉ Registry.allRoles type [] := by simp [Registry.mem_allRoles, hroles]
  refine iff_of_false hnone ?_
  rintro ⟨c, hc, -⟩
  exact houtside name houter (Ordered.mem_of_getElem? hc)

/-- The registry of an instantiation is built from the declarations of the classes. -/
theorem build_of_instantiate {settings : Extraction} {classes : List Classifier}
    (h : instantiate settings classes = .ok i) :
    let d := Declared.ofList classes
    (d.declarations (d.outside settings)).build = .ok i.graph.registry := by
  intro d
  have hd : d.Named := Declared.named_ofList classes
  obtain ⟨r, hr, rfl⟩ := instantiate_eq_ok_iff.mp h
  have hregistry : (d.classes.foldl addLinks (d.made settings r)).graph.registry = r := by
    rw [foldl_addLinks_eq d.classes (i := d.made settings r) rfl, registry_foldl_addLink]
    exact (hd.made_spec hr).2.registry
  rw [hregistry]
  exact hr

/-- An entity satisfies the roles that the class of its name satisfies. -/
theorem satisfies_iff {settings : Extraction} {classes : List Classifier}
    (h : instantiate settings classes = .ok i) {x : EntityId} (hx : i.entityOf[name]? = some x)
    (role : String) :
    i.graph.satisfies x role = .ok true ↔ (Declared.ofList classes).Satisfies name role := by
  have hd : (Declared.ofList classes).Named := Declared.named_ofList classes
  obtain ⟨r, verdicts, hr, hadds, -⟩ := exists_adds_of_instantiate h
  have hmade := (hd.made_spec hr).2
  rw [hadds.entityOf] at hx
  obtain ⟨entity, hentity, rfl⟩ := (hmade.entityOf name x).mp hx
  rw [← (faithful_made hd hr).roles x entity hentity role, Std.ExtTreeSet.mem_iff_contains]
  unfold EntityGraph.satisfies
  rw [hadds.entities, hentity]
  exact ⟨Except.ok.inj, congrArg Except.ok⟩

end Instantiation

/-! ## The main result -/

/-- In an instantiation, an entity satisfies the roles that its class, of each name the last,
implements and binds. So the entity of a subtype satisfies the roles of the entities of its bases,
and an entity with the role of an interface satisfies those of all interfaces above it. -/
theorem instantiate_substitutable {settings : Extraction} {classes : List Classifier}
    {i : Instantiation} (h : instantiate settings classes = .ok i) :
    let d := Declared.ofList classes
    (∀ name : String, d[name]? = classes.reverse.find? fun c => c.name = name) ∧
    (∀ (name role : String) (x : EntityId), i.entityOf[name]? = some x →
      (i.graph.satisfies x role = .ok true ↔ d.Satisfies name role)) ∧
    (∀ (name base : String) (x y : EntityId), i.entityOf[name]? = some x →
      i.entityOf[base]? = some y → i.graph.registry.isSubtype name base = true →
        ∀ role, i.graph.satisfies y role = .ok true → i.graph.satisfies x role = .ok true) ∧
    ∀ (name role above : String) (x : EntityId), i.entityOf[name]? = some x →
      i.graph.satisfies x role = .ok true → TransGen d.Refines role above →
        i.graph.satisfies x above = .ok true := by
  intro d
  have hd : d.Named := Declared.named_ofList classes
  refine ⟨Declared.getElem?_ofList classes, fun name role x hx => i.satisfies_iff h hx role,
    fun name base x y hx hy hsubtype role hrole => ?_, fun name role above x hx hrole hchain => ?_⟩
  · rw [i.satisfies_iff h hx]
    rw [i.satisfies_iff h hy] at hrole
    have hr := i.build_of_instantiate h
    rcases (hd.isSubtype_iff hd.notMem_of_mem_outside hr).mp hsubtype with
      ⟨c, above, hc, -, hchain, rfl⟩ | ⟨-, rfl⟩
    · obtain rfl := hd hc
      exact hd.satisfies_of_base hc hchain hrole
    · exact hrole
  · rw [i.satisfies_iff h hx] at hrole ⊢
    exact hrole.of_refines hchain.to_reflTransGen

/-- A title and a name each come with the other. A person has both, and an employee is a person. -/
def nobility : List Classifier :=
  let method (name : String) (isAbstract : Bool) : Method :=
    { name, returnType := "String", parameters := [], visibility := .toAll, isAbstract }
  [{ name := "Titled", kind := .interface, interfaces := ["Named"]
     methods := [method "title" true] },
    { name := "Named", kind := .interface, interfaces := ["Titled"]
      methods := [method "name" true] },
    { name := "Person", kind := .plain, interfaces := ["Titled"]
      methods := [method "title" false, method "name" false] },
    { name := "Employee", kind := .plain, superclass := some "Person" }]

/-- An employee has a title because a person has one, and a name because what is titled is named. -/
theorem substitutable_nobility :
    ∃ i, instantiate {} nobility = .ok i ∧ i.entityOf["Employee"]? = some ⟨1⟩ ∧
      i.entityOf["Person"]? = some ⟨2⟩ ∧ i.graph.registry.isSubtype "Employee" "Person" = true ∧
      i.graph.satisfies ⟨1⟩ "Titled" = .ok true ∧ i.graph.satisfies ⟨1⟩ "Named" = .ok true := by
  have hfacts : (instantiate {} nobility).map (fun i =>
      (i.entityOf["Employee"]?, i.entityOf["Person"]?,
        i.graph.registry.isSubtype "Employee" "Person", i.graph.satisfies ⟨2⟩ "Titled")) =
      .ok (some ⟨1⟩, some ⟨2⟩, true, .ok true) := by decide +kernel
  obtain ⟨i, hi, hfacts⟩ := Outcome.map_eq_ok_iff.mp hfacts
  simp only [Prod.mk.injEq] at hfacts
  obtain ⟨hemployee, hperson, hsubtype, htitled⟩ := hfacts
  obtain ⟨-, -, hbase, habove⟩ := instantiate_substitutable hi
  have hemployee' := hbase "Employee" "Person" ⟨1⟩ ⟨2⟩ hemployee hperson hsubtype "Titled" htitled
  have hrefines : (Declared.ofList nobility).Refines "Titled" "Named" :=
    ⟨⟨_, rfl, rfl⟩, ⟨_, rfl, rfl⟩, _, rfl, List.mem_singleton_self _⟩
  exact ⟨i, hi, hemployee, hperson, hsubtype, hemployee',
    habove "Employee" "Titled" "Named" ⟨1⟩ hemployee hemployee' (.single hrefines)⟩

end ClassGraph
