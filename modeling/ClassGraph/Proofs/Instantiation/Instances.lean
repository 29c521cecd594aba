import ClassGraph.Proofs.Instantiation.Issues
import ClassGraph.Proofs.Instantiation.Substitution
import ClassGraph.Proofs.Instantiation.Violations

/-!
# The entities of an instantiation

The names with an entity and the entities correspond one to one (`exists_made_of_instantiate` shows
that the links leave them as they were made). The entity of a class carries, of the roles that the
class implements, those that it satisfies; when one is left out there is an issue of the class
about a contract, and no other issue comes from making the entities (`instantiate_entities`).
-/

open Relation

namespace ClassGraph

namespace Declared

/-- A class satisfies a role when it implements the role and binds all operations that the role
requires. -/
theorem satisfies_iff_of_class {d : Declared} {c : Classifier} (hc : d[c.name]? = some c)
    {role : String} : d.Satisfies c.name role ↔
      d.Implements c role ∧ ∀ op, d.Requires role op → d.Binds c op := by
  constructor
  · rintro ⟨c', hc', hrole⟩
    obtain rfl := Option.some.inj (hc.symm.trans hc')
    exact hrole
  · exact fun hrole => ⟨c, hc, hrole⟩

/-- A class violates the roles that it implements and does not satisfy. -/
theorem violates_iff_not_satisfies {d : Declared} {c : Classifier} (hc : d[c.name]? = some c)
    {role : String} : d.Violates c role ↔ d.Implements c role ∧ ¬ d.Satisfies c.name role := by
  rw [satisfies_iff_of_class hc]
  refine and_congr_right fun himplements => ?_
  simp only [himplements, true_and, not_forall, exists_prop]

end Declared

namespace Instantiation

variable {settings : Extraction} {classes : List Classifier} {i : Instantiation}

/-- An instantiation makes all entities before the first link. The links leave them as they are, and
behind the issues from making them add only such as are about links. -/
theorem exists_made_of_instantiate (h : instantiate settings classes = .ok i) :
    let d := Declared.ofList classes
    let made := d.made settings i.graph.registry
    i = d.classes.foldl addLinks made ∧ made.Populated i.graph.registry (d.HasEntity settings) ∧
      made.Faithful d i.graph.registry ∧ i.entityOf = made.entityOf ∧
      i.graph.entities = made.graph.entities ∧
      ∃ later, i.issues = made.issues ++ later ∧ ∀ x ∈ later, x.error.concernsLink = true := by
  intro d made
  have hd : d.Named := Declared.named_ofList classes
  obtain ⟨r, hr, hi⟩ := instantiate_eq_ok_iff.mp h
  obtain ⟨r', verdicts, hr', hadds, -⟩ := exists_adds_of_instantiate h
  have hregistry := build_of_instantiate h
  obtain rfl := Except.ok.inj (hr.symm.trans hregistry)
  obtain rfl := Except.ok.inj (hr'.symm.trans hregistry)
  refine ⟨hi, (hd.made_spec hr).2, faithful_made hd hr, hadds.entityOf, hadds.entities, _,
    hadds.issues, fun x hx => ?_⟩
  obtain ⟨v, hv, hissue⟩ := List.mem_filterMap.mp hx
  exact (hadds.obstructs v hv x.error (Verdict.issue?_eq_some_iff.mp hissue).1).concernsLink

/-- An issue about a contract says that its class violates a role. -/
theorem exists_violates_of_contract (h : instantiate settings classes = .ok i) {c : Classifier}
    (hc : (Declared.ofList classes)[c.name]? = some c) {error : ContractError}
    (hissue : ⟨c.name, .contract error⟩ ∈ i.issues) :
    ∃ role, (Declared.ofList classes).Violates c role := by
  obtain ⟨c', hc', -, role, missing, hfirst, -, heq⟩ :=
    exists_violation_of_mem_issues h hissue rfl
  -- The issue names its class, and of each name there is one.
  have hname : c.name = c'.name := congrArg Issue.className heq
  rw [hname, hc'] at hc
  obtain rfl := Option.some.inj hc
  exact ⟨role, hfirst.1⟩

end Instantiation

/-- In an instantiation the names with an entity, those of the classes with instances and, where
they are included, of the outside types, correspond one to one to the entities, each being the type
of its entity. The entity of a class carries exactly those of the roles which the class implements
whose operations it binds. An issue of the class about a contract is there exactly when one of the
roles is left out, and making the entities leaves no other issue. -/
theorem instantiate_entities {settings : Extraction} {classes : List Classifier}
    {i : Instantiation} (h : instantiate settings classes = .ok i) :
    let d := Declared.ofList classes
    let made := d.made settings i.graph.registry
    (∀ name : String, d[name]? = classes.reverse.find? fun c => c.name = name) ∧
    ((∀ name, name ∈ i.entityOf ↔ d.HasEntity settings name) ∧
      (∀ (name : String) (x : EntityId), i.entityOf[name]? = some x ↔
        ∃ entity, i.graph.entities[x]? = some entity ∧ entity.typeTag = name) ∧
      ∀ x ∈ i.graph.entities, ∃! name : String, i.entityOf[name]? = some x) ∧
    (∀ role, d.IsInterface role → ∃ contract, i.graph.registry.roles[role]? = some contract ∧
      ∀ op, op ∈ contract.required ↔ d.Requires role op) ∧
    (∀ (c : Classifier) (x : EntityId) (entity : Entity), d[c.name]? = some c →
      i.entityOf[c.name]? = some x → i.graph.entities[x]? = some entity →
      (∀ role, role ∈ entity.roles ↔
        d.Implements c role ∧ ∀ op, d.Requires role op → d.Binds c op) ∧
      ((∃ tag role missing, ⟨c.name, .contract (.unbound tag role missing)⟩ ∈ i.issues) ↔
        ∃ role, d.Implements c role ∧ role ∉ entity.roles)) ∧
    i = d.classes.foldl Instantiation.addLinks made ∧
    (∀ x ∈ made.issues, ∃ c role missing, d[c.name]? = some c ∧ d.Violates c role ∧
      x = Declared.violation c role missing) ∧
    ∃ later, i.issues = made.issues ++ later ∧ ∀ x ∈ later, x.error.concernsLink = true := by
  intro d made
  have hd : d.Named := Declared.named_ofList classes
  have hr := Instantiation.build_of_instantiate h
  obtain ⟨hi, hmade, hfaithful, hentityOf, hentities, later, hissues, hlater⟩ :=
    Instantiation.exists_made_of_instantiate h
  have hnames : ∀ (name : String) (x : EntityId), i.entityOf[name]? = some x ↔
      ∃ entity, i.graph.entities[x]? = some entity ∧ entity.typeTag = name := by
    intro name x
    rw [hentityOf, hentities]
    exact hmade.entityOf name x
  refine ⟨Declared.getElem?_ofList classes, ⟨fun name => ?_, hnames, fun x hx => ?_⟩,
    fun role hrole => hd.exists_role hr hrole, fun c x entity hc hx hentity => ?_, hi,
    fun x hx => ?_, later, hissues, hlater⟩
  · rw [hentityOf]
    exact hmade.mem_entityOf name
  · obtain ⟨entity, hentity⟩ := (Ordered.mem_iff_exists _ _).mp hx
    refine ⟨entity.typeTag, (hnames _ _).mpr ⟨entity, hentity, rfl⟩, fun name hname => ?_⟩
    obtain ⟨entity', hentity', rfl⟩ := (hnames _ _).mp hname
    rw [Option.some.inj (hentity.symm.trans hentity')]
  · have hinstances : c.isInstantiable = true := by
      rw [hentityOf] at hx
      rcases hmade.names_of_entityOf hx with ⟨c', hc', hinstances⟩ | ⟨-, houter, -⟩
      · rwa [Option.some.inj (hc.symm.trans hc')]
      · exact absurd (Ordered.mem_of_getElem? hc) houter
    have hsatisfies : ∀ role, role ∈ entity.roles ↔ d.Satisfies c.name role := by
      obtain ⟨entity', hentity', htag⟩ := (hnames _ _).mp hx
      obtain rfl := Option.some.inj (hentity.symm.trans hentity')
      rw [hentities] at hentity
      intro role
      rw [hfaithful.roles x entity hentity role, htag]
    refine ⟨fun role => (hsatisfies role).trans (Declared.satisfies_iff_of_class hc), ?_⟩
    simp only [hsatisfies, ← Declared.violates_iff_not_satisfies hc]
    constructor
    · rintro ⟨tag, role, missing, hissue⟩
      exact Instantiation.exists_violates_of_contract h hc hissue
    · rintro ⟨role, hrole⟩
      obtain ⟨first, -, missing, -, hissue⟩ := Instantiation.exists_reports h hc hinstances hrole
      exact ⟨c.name, first, missing, hissue⟩
  · rw [(hd.made_spec hr).1] at hx
    obtain ⟨c, hc, hviolation⟩ := List.mem_filterMap.mp hx
    obtain ⟨hc, hinstances⟩ := hd.mem_instances.mp hc
    obtain ⟨role, missing, hfirst, -, heq⟩ :=
      hd.violation_eq_some hd.notMem_of_mem_outside hr hc hinstances hviolation
    exact ⟨c, role, missing, hc, hfirst.1, heq⟩

/-- Singers and performers extend each other. An artist is a singer and binds what both require; a
soloist is an artist who is to dance, and binds no dance. -/
def theatre : List Classifier :=
  let method (name : String) : Method :=
    { name, returnType := "void", parameters := [], visibility := .toAll }
  [{ capability "Singer" "sing" with interfaces := ["Performer"] },
    { capability "Performer" "perform" with interfaces := ["Singer"] },
    capability "Dancer" "dance",
    { name := "Artist", kind := .plain, interfaces := ["Singer"]
      methods := [method "sing", method "perform"] },
    { name := "Soloist", kind := .plain, superclass := some "Artist", interfaces := ["Dancer"] }]

/-- The soloist performs, as the artist does. The dance is left out, and an issue says so. -/
theorem entities_theatre : ∃ i x entity, instantiate {} theatre = .ok i ∧
    i.entityOf["Soloist"]? = some x ∧ i.graph.entities[x]? = some entity ∧
    "Performer" ∈ entity.roles ∧ "Dancer" ∉ entity.roles ∧
    ∃ tag role missing, ⟨"Soloist", .contract (.unbound tag role missing)⟩ ∈ i.issues := by
  have hfacts : (instantiate {} theatre).map (fun i => (i.entityOf["Soloist"]?,
      i.graph.entities[(⟨2⟩ : EntityId)]?.map (·.roles.toList))) =
        .ok (some ⟨2⟩, some ["Performer", "Singer"]) := by decide +kernel
  obtain ⟨i, hi, hfacts⟩ := Outcome.map_eq_ok_iff.mp hfacts
  rw [Prod.mk.injEq, Option.map_eq_some_iff] at hfacts
  obtain ⟨hx, entity, hentity, hroles⟩ := hfacts
  have hmem : ∀ role, role ∈ entity.roles ↔ role ∈ ["Performer", "Singer"] := by
    intro role
    rw [← hroles, Std.ExtTreeSet.mem_toList]
  have hdancer : "Dancer" ∉ entity.roles := by
    rw [hmem]
    decide
  obtain ⟨soloist, hsoloist⟩ : ∃ soloist : Classifier,
      (Declared.ofList theatre)["Soloist"]? = some soloist ∧ soloist.name = "Soloist" ∧
        "Dancer" ∈ (Declared.ofList theatre).rolesOf soloist :=
    ⟨_, rfl, rfl, by decide +kernel⟩
  obtain ⟨hdeclared, hname, hdances⟩ := hsoloist
  obtain ⟨-, -, -, hclass, -⟩ := instantiate_entities hi
  have hissue := (hclass soloist ⟨2⟩ entity (by rwa [hname]) (by rwa [hname]) hentity).2.mpr
    ⟨"Dancer", (Declared.mem_rolesOf hdeclared).mp hdances, hdancer⟩
  rw [hname] at hissue
  exact ⟨i, ⟨2⟩, entity, hi, hx, hentity, (hmem _).mpr (by decide), hdancer, hissue⟩

end ClassGraph
