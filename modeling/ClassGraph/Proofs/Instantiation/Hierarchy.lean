import ClassGraph.Proofs.Instantiation.Substitution
import ClassGraph.Proofs.Instantiation.Violations
import ClassGraph.Proofs.Registry.Faults
import ClassGraph.Proofs.Registry.Growth

/-!
# Hierarchies of classes

An instantiation fails for one reason only. The names of the classes and of the outside types are
all different, so that declaring them one after the other is never refused (`Named.ofItems_items`).
A base counts only where it is declared, and no class carries a role by itself, so that of all
faults that a declared type can have there remains the cycle among its bases (`Named.fault_iff`).
What is reported is therefore the least class whose bases run into a cycle
(`instantiate_eq_error_iff`); entities are then made of every outside name.
-/

open Relation

namespace ClassGraph

namespace Declared

/-- The class of this name, which is no interface, is on a cycle of bases, or its bases run into
one. -/
def RunsIntoCycle (d : Declared) (name : String) : Prop :=
  ∃ c, d[name]? = some c ∧ c.kind ≠ .interface ∧
    ∃ above, ReflTransGen d.Base c above ∧ TransGen d.Base above above

/-- What is declared, in this order: a role for each interface, a type for each other class and one
for each outside name. -/
def items (d : Declared) (externals : NameSet) : List Declarations.Item :=
  ((d.classes.filter fun c => c.kind == .interface).map fun c =>
      .role c.name (d.role c).required.toList) ++
    (((d.classes.filter fun c => c.kind != .interface).map d.type ++
      externals.toList.map fun name => { tag := name : TypeDecl }).map .type)

variable {d : Declared} {externals : NameSet}

/-! ## Declaring -/

/-- What the items say is what is declared. -/
theorem Named.records_items (hd : d.Named) (houtside : ∀ name ∈ externals, name ∉ d) :
    (d.declarations externals).Records (d.items externals) where
  types := by
    intro tag decl
    rw [hd.getElem?_types houtside]
    simp only [items, List.mem_append, List.mem_map, List.mem_filter, bne_iff_ne, hd.mem_classes,
      Std.ExtTreeSet.mem_toList, reduceCtorEq, and_false, exists_false, false_or,
      Declarations.Item.type.injEq, exists_eq_right]
    constructor
    · rintro (⟨c, hc, hkind, rfl⟩ | ⟨hname, rfl⟩)
      · exact ⟨.inl ⟨c, ⟨(hd hc).symm ▸ hc, hkind⟩, rfl⟩, hd hc⟩
      · exact ⟨.inr ⟨tag, hname, rfl⟩, rfl⟩
    · rintro ⟨⟨c, ⟨hc, hkind⟩, rfl⟩ | ⟨name, hname, rfl⟩, rfl⟩
      · exact .inl ⟨c, hc, hkind, rfl⟩
      · exact .inr ⟨hname, rfl⟩
  roles := by
    intro tag role
    have hrole (c : Classifier) :
        (⟨c.name, .ofList (d.role c).required.toList⟩ : Role) = d.role c := by
      have hsame : .ofList (d.role c).required.toList = (d.role c).required :=
        Std.ExtTreeSet.ext_mem fun op => by
          rw [Ordered.mem_set_ofList, Std.ExtTreeSet.mem_toList]
      rw [hsame]
      rfl
    rw [hd.getElem?_roles]
    simp only [items, List.mem_append, List.mem_map, List.mem_filter, beq_iff_eq, hd.mem_classes,
      reduceCtorEq, and_false, exists_false, or_false, Declarations.Item.role.injEq]
    constructor
    · rintro ⟨c, hc, hkind, rfl⟩
      obtain rfl := hd hc
      exact ⟨_, ⟨c, ⟨hc, hkind⟩, rfl, rfl⟩, (hrole c).symm⟩
    · rintro ⟨_, ⟨c, ⟨hc, hkind⟩, rfl, rfl⟩, rfl⟩
      exact ⟨c, hc, hkind, hrole c⟩

/-- No two items of a sort have the same name. -/
theorem Named.nodup_items (hd : d.Named) (houtside : ∀ name ∈ externals, name ∉ d) :
    ((d.items externals).map Declarations.Item.key).Nodup := by
  have hinterfaces : ((d.classes.filter fun c => c.kind == .interface).map (·.name)).Nodup := by
    rw [List.Nodup, List.pairwise_map]
    exact hd.pairwise_classes.filter _
  have hroles := hinterfaces.map (Sum.inl_injective (β := String))
  have htypes := (hd.nodup_tags houtside).map (Sum.inr_injective (α := String))
  rw [List.map_map] at hroles htypes
  rw [items, List.map_append, List.map_map, List.map_map]
  refine List.nodup_append.mpr ⟨hroles, htypes, ?_⟩
  -- A role and a type may share their name.
  rintro _ hrole _ htype rfl
  obtain ⟨c, -, rfl⟩ := List.mem_map.mp hrole
  obtain ⟨decl, -, heq⟩ := List.mem_map.mp htype
  cases heq

/-- Nothing is refused when the classes and the outside names are declared one after the other. -/
theorem Named.ofItems_items (hd : d.Named) (houtside : ∀ name ∈ externals, name ∉ d) :
    Declarations.ofItems (d.items externals) = .ok (d.declarations externals) := by
  obtain ⟨declarations, hitems⟩ :=
    Declarations.exists_ofItems_iff.mpr (hd.nodup_items houtside)
  rw [hitems, (Declarations.records_ofItems hitems).unique (hd.records_items houtside)]

/-! ## Faults -/

/-- The bases strictly above the type of a class are the types of the classes strictly above the
class. -/
theorem Named.transGen_extends_iff (hd : d.Named) (houtside : ∀ name ∈ externals, name ∉ d)
    {c : Classifier} {decl : TypeDecl} :
    TransGen (d.declarations externals).Extends (d.type c) decl ↔
      ∃ above, TransGen d.Base c above ∧ decl = d.type above := by
  simp only [TransGen.head'_iff, hd.extends_type_iff houtside]
  constructor
  · rintro ⟨_, ⟨base, hbase, rfl⟩, hchain⟩
    obtain ⟨above, habove, rfl⟩ := (hd.reflTransGen_extends_iff houtside).mp hchain
    exact ⟨above, ⟨base, hbase, habove⟩, rfl⟩
  · rintro ⟨above, ⟨base, hbase, habove⟩, rfl⟩
    exact ⟨_, ⟨base, hbase, rfl⟩, (hd.reflTransGen_extends_iff houtside).mpr ⟨above, habove, rfl⟩⟩

/-- The type of a class is on a cycle exactly when the class is. -/
theorem Named.transGen_type_self_iff (hd : d.Named) (houtside : ∀ name ∈ externals, name ∉ d)
    {c : Classifier} (hc : d[c.name]? = some c) :
    TransGen (d.declarations externals).Extends (d.type c) (d.type c) ↔ TransGen d.Base c c := by
  rw [hd.transGen_extends_iff houtside]
  constructor
  · rintro ⟨above, hchain, htype⟩
    -- Both classes are declared under the name of the one type.
    have habove := hd.getElem?_of_chain hc hchain.to_reflTransGen
    have hname : c.name = above.name := congrArg TypeDecl.tag htype
    rw [← hname, hc] at habove
    rwa [← Option.some.inj habove] at hchain
  · exact fun hcycle => ⟨c, hcycle, rfl⟩

/-- The type of a class names no base that is not declared. -/
theorem Named.mem_types_of_base (hd : d.Named) (houtside : ∀ name ∈ externals, name ∉ d)
    {c : Classifier} {base : String} (hbase : (d.type c).base = some base) :
    base ∈ (d.declarations externals).types := by
  obtain ⟨-, above, habove, hkind⟩ := base_type_eq_some_iff.mp hbase
  exact Ordered.mem_of_getElem?
    ((hd.getElem?_types houtside).mpr (.inl ⟨above, habove, hkind, rfl⟩))

/-- The only fault of a declared type is that its bases run into a cycle. -/
theorem Named.fault_iff (hd : d.Named) (houtside : ∀ name ∈ externals, name ∉ d) {name : String}
    {decl : TypeDecl} (hdecl : (d.declarations externals).types[name]? = some decl)
    {e : DeclarationError} : (d.declarations externals).Fault decl e ↔
      d.RunsIntoCycle name ∧ e = .inheritanceCycle name := by
  rcases (hd.getElem?_types houtside).mp hdecl with ⟨c, hc, hkind, rfl⟩ | ⟨hname, rfl⟩
  · obtain rfl := hd hc
    constructor
    · rintro (hstrays | ⟨-, ⟨⟨_, hchain, hrole⟩, -⟩, -⟩)
      · cases hstrays with
        | unknownBase hchain hbase hout =>
          obtain ⟨above, -, rfl⟩ := (hd.reflTransGen_extends_iff houtside).mp hchain
          exact absurd (hd.mem_types_of_base houtside hbase) hout
        | inheritanceCycle hchain hcycle =>
          obtain ⟨above, habove, rfl⟩ := (hd.reflTransGen_extends_iff houtside).mp hchain
          have hcycle :=
            (hd.transGen_type_self_iff houtside (hd.getElem?_of_chain hc habove)).mp hcycle
          exact ⟨⟨c, hc, hkind, above, habove, hcycle⟩, rfl⟩
      · -- No class carries a role by itself.
        obtain ⟨above, -, rfl⟩ := (hd.reflTransGen_extends_iff houtside).mp hchain
        exact absurd hrole Std.ExtTreeSet.not_mem_empty
    · rintro ⟨⟨c', hc', -, above, habove, hcycle⟩, rfl⟩
      obtain rfl := Option.some.inj (hc.symm.trans hc')
      refine .bases (.inheritanceCycle
        ((hd.reflTransGen_extends_iff houtside).mpr ⟨above, habove, rfl⟩) ?_)
      exact (hd.transGen_type_self_iff houtside (hd.getElem?_of_chain hc habove)).mpr hcycle
  · -- An outside name has neither a base nor roles.
    obtain ⟨type, htype⟩ : ∃ type, (d.declarations externals).resolve { tag := name } = .ok type :=
      Declarations.exists_resolve _ rfl rfl
    refine iff_of_false (fun hfault => ?_) ?_
    · exact Declarations.exists_resolve_iff.mp ⟨type, htype⟩ e hfault
    · rintro ⟨⟨c, hc, -⟩, -⟩
      exact houtside name hname (Ordered.mem_of_getElem? hc)

/-- The names that have a fault are those of the classes whose bases run into a cycle. -/
theorem Named.faulty_iff (hd : d.Named) (houtside : ∀ name ∈ externals, name ∉ d) {name : String} :
    (d.declarations externals).Faulty name ↔ d.RunsIntoCycle name := by
  constructor
  · rintro ⟨decl, e, hdecl, hfault⟩
    exact ((hd.fault_iff houtside hdecl).mp hfault).1
  · rintro ⟨c, hc, hkind, hcycle⟩
    have hdecl := (hd.getElem?_types houtside).mpr (.inl ⟨c, hc, hkind, rfl⟩)
    exact ⟨_, _, hdecl, (hd.fault_iff houtside hdecl).mpr ⟨⟨c, hc, hkind, hcycle⟩, rfl⟩⟩

/-- No registry can be built exactly when the bases of some class run into a cycle, and the least
such class is reported. -/
theorem Named.build_eq_error_iff (hd : d.Named) (houtside : ∀ name ∈ externals, name ∉ d)
    {e : DeclarationError} : (d.declarations externals).build = .error e ↔
      ∃ name, IsLeast {name | d.RunsIntoCycle name} name ∧ e = .inheritanceCycle name := by
  rw [Declarations.build_eq_error_iff]
  simp only [hd.faulty_iff houtside]
  constructor
  · rintro ⟨name, decl, hleast, hdecl, hfault⟩
    exact ⟨name, hleast, ((hd.fault_iff houtside hdecl).mp hfault).2⟩
  · rintro ⟨name, hleast, rfl⟩
    obtain ⟨c, hc, hkind, -⟩ := hleast.1
    have hdecl := (hd.getElem?_types houtside).mpr (.inl ⟨c, hc, hkind, rfl⟩)
    exact ⟨name, _, hleast, hdecl, (hd.fault_iff houtside hdecl).mpr ⟨hleast.1, rfl⟩⟩

end Declared

/-! ## Instantiations -/

variable {settings : Extraction} {classes : List Classifier}

/-- An instantiation fails exactly when no registry can be built. -/
theorem instantiate_eq_error_iff_build {d : Declared} (hd : d = Declared.ofList classes)
    {f : Failure} : instantiate settings classes = .error f ↔
      ∃ e, (d.declarations (d.outside settings)).build = .error e ∧
        f = ⟨"invalid type hierarchy", [e.message]⟩ := by
  subst hd
  have hbuild : ((Declared.ofList classes).declarations (if settings.includeExternal then
      (Declared.ofList classes).external else ∅)).build = ((Declared.ofList classes).declarations
        ((Declared.ofList classes).outside settings)).build := rfl
  unfold instantiate
  dsimp only
  rw [hbuild]
  cases ((Declared.ofList classes).declarations ((Declared.ofList classes).outside settings)).build
  with
  | ok => simp
  | error e => simp [eq_comm]

/-- Every issue is about a declared class with instances. -/
theorem Instantiation.exists_instance_of_mem_issues {i : Instantiation}
    (h : instantiate settings classes = .ok i) {x : Issue} (hx : x ∈ i.issues) :
    ∃ c, (Declared.ofList classes)[x.className]? = some c ∧ c.isInstantiable = true := by
  have hd : (Declared.ofList classes).Named := Declared.named_ofList classes
  obtain ⟨r, verdicts, hr, hadds, hasked⟩ := Instantiation.exists_adds_of_instantiate h
  obtain ⟨hissues, hmade⟩ := hd.made_spec hr
  rw [hadds.issues, hissues, List.mem_append] at hx
  rcases hx with hx | hx
  · obtain ⟨c, hc, hviolation⟩ := List.mem_filterMap.mp hx
    obtain ⟨hc, hinstances⟩ := hd.mem_instances.mp hc
    obtain ⟨_, _, -, -, rfl⟩ :=
      hd.violation_eq_some hd.notMem_of_mem_outside hr hc hinstances hviolation
    exact ⟨c, hc, hinstances⟩
  · obtain ⟨v, hv, hissue⟩ := List.mem_filterMap.mp hx
    have hmem : (v.className, v.link) ∈ (Declared.made _ settings r).asked _ :=
      hasked ▸ List.mem_map_of_mem hv
    obtain ⟨c, hc, hclass, hlink⟩ := Instantiation.mem_asked.mp hmem
    obtain ⟨source, hsource, -⟩ := Instantiation.mem_classLinks.mp hlink
    rw [(Instantiation.Verdict.issue?_eq_some_iff.mp hissue).2, ← hclass]
    -- Only a class with an entity asks for links.
    refine (hmade.names_of_entityOf hsource).resolve_right fun ⟨_, houter, _⟩ => ?_
    exact houter (Ordered.mem_of_getElem? (hd.mem_classes.mp hc))

/-- Every issue is one of a declared class. -/
theorem Instantiation.mem_of_mem_issues {i : Instantiation}
    (h : instantiate settings classes = .ok i) {x : Issue} (hx : x ∈ i.issues) :
    x.className ∈ Declared.ofList classes := by
  obtain ⟨c, hc, -⟩ := Instantiation.exists_instance_of_mem_issues h hx
  exact Ordered.mem_of_getElem? hc

/-- Every outside name has its entity, and no issue is about it. -/
theorem Instantiation.entity_of_outside {i : Instantiation}
    (h : instantiate settings classes = .ok i) {name : String}
    (hname : name ∈ (Declared.ofList classes).outside settings) :
    name ∈ i.entityOf ∧ ∀ x ∈ i.issues, x.className ≠ name := by
  have hd : (Declared.ofList classes).Named := Declared.named_ofList classes
  obtain ⟨r, verdicts, hr, hadds, -⟩ := Instantiation.exists_adds_of_instantiate h
  constructor
  · rw [hadds.entityOf, (hd.made_spec hr).2.mem_entityOf]
    exact .inr (hd.mem_outside.mp hname)
  · rintro x hx rfl
    exact hd.notMem_of_mem_outside _ hname (Instantiation.mem_of_mem_issues h hx)

/-- An instantiation fails exactly when the bases of some class, which is no interface, are on a
cycle or run into one, and the least such class is reported. The other steps that could fail do not:
the interfaces, the other classes and the outside names are declared without a refusal, and every
outside name gets its entity. -/
theorem instantiate_eq_error_iff (settings : Extraction) (classes : List Classifier) :
    let d := Declared.ofList classes
    (∀ name : String, d[name]? = classes.reverse.find? fun c => c.name = name) ∧
    (∀ f, instantiate settings classes = .error f ↔
      ∃ name, IsLeast {name | d.RunsIntoCycle name} name ∧
        f = ⟨"invalid type hierarchy", ["inheritance cycle through " ++ name]⟩) ∧
    (∀ name, (⟨"invalid type hierarchy", ["inheritance cycle through " ++ name]⟩ : Failure).line =
      "invalid type hierarchy: inheritance cycle through " ++ name) ∧
    ((∃ i, instantiate settings classes = .ok i) ↔ ∀ name, ¬ d.RunsIntoCycle name) ∧
    Declarations.ofItems (d.items (d.outside settings)) =
      .ok (d.declarations (d.outside settings)) ∧
    ∀ i, instantiate settings classes = .ok i → ∀ name ∈ d.outside settings,
      name ∈ i.entityOf ∧ ∀ x ∈ i.issues, x.className ≠ name := by
  intro d
  have hd : d.Named := Declared.named_ofList classes
  have herror : ∀ f, instantiate settings classes = .error f ↔
      ∃ name, IsLeast {name | d.RunsIntoCycle name} name ∧
        f = ⟨"invalid type hierarchy", ["inheritance cycle through " ++ name]⟩ := by
    intro f
    rw [instantiate_eq_error_iff_build (d := d) rfl]
    simp only [hd.build_eq_error_iff hd.notMem_of_mem_outside]
    constructor
    · rintro ⟨_, ⟨name, hleast, rfl⟩, rfl⟩
      exact ⟨name, hleast, rfl⟩
    · rintro ⟨name, hleast, rfl⟩
      exact ⟨_, ⟨name, hleast, rfl⟩, rfl⟩
  refine ⟨Declared.getElem?_ofList classes, herror, fun name => ?_, ?_,
    hd.ofItems_items hd.notMem_of_mem_outside, fun i hi name hname =>
      Instantiation.entity_of_outside hi hname⟩
  · have hline :
        (⟨"invalid type hierarchy", ["inheritance cycle through " ++ name]⟩ : Failure).line =
          "invalid type hierarchy: " ++ ("inheritance cycle through " ++ name) := by
      simp [Failure.line]
    rw [hline, ← String.append_assoc]
    rfl
  · constructor
    · rintro ⟨i, hi⟩ name hname
      have hr := Instantiation.build_of_instantiate hi
      exact Declarations.exists_build_iff.mp ⟨_, hr⟩ name
        ((hd.faulty_iff hd.notMem_of_mem_outside).mpr hname)
    · intro hnone
      cases hresult : instantiate settings classes with
      | ok i => exact ⟨i, rfl⟩
      | error f =>
        obtain ⟨name, hleast, -⟩ := (herror f).mp hresult
        exact absurd hleast.1 (hnone name)

end ClassGraph
