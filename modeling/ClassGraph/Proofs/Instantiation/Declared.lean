import ClassGraph.Proofs.Instantiation.Roles
import ClassGraph.Proofs.Registry.Instance
import ClassGraph.Proofs.Registry.Resolution

/-!
# From classes to a registry

A list of classes declares under each name the last class of it (`getElem?_ofList`). The registry
that is built from the declarations has a role for each interface and a type for each other class
and each outside name. The type of a class binds what the class and its declared bases define
(`exists_type_of_class`), so that it fulfils a role exactly when these define what the role requires
(`fulfils_iff`).
-/

open Relation

namespace ClassGraph.Declared

variable {d : Declared}

/-! ## Classes by name -/

/-- Every class is stored under its own name. -/
def Named (d : Declared) : Prop :=
  ∀ {name : String} {c : Classifier}, d[name]? = some c → c.name = name

/-- Of the classes of one name the last one counts. -/
theorem getElem?_ofList (classes : List Classifier) (name : String) :
    (ofList classes)[name]? = classes.reverse.find? fun c => c.name = name := by
  -- From the end: the class that is put in last replaces those before it.
  induction classes using List.reverseRecOn with
  | nil => simp [ofList]
  | append_singleton classes c ih =>
    have hstep : ofList (classes ++ [c]) = (ofList classes).insert c.name c := by
      simp [ofList]
    rw [hstep, Ordered.getElem?_insert, ih, List.reverse_concat, List.find?_cons]
    by_cases hname : c.name = name
    · simp [hname]
    · simp [hname, Ne.symm hname]

/-- Declared classes stand under their own names. -/
theorem named_ofList (classes : List Classifier) : (ofList classes).Named := by
  intro name c hc
  rw [getElem?_ofList] at hc
  simpa using List.find?_some hc

/-- The declared classes are those that are found under their names. -/
theorem Named.mem_classes (hd : d.Named) {c : Classifier} :
    c ∈ d.classes ↔ d[c.name]? = some c := by
  simp only [classes, List.mem_map, Prod.exists, exists_eq_right,
    Std.ExtTreeMap.mem_toList_iff_getElem?_eq_some]
  refine ⟨?_, fun hc => ⟨c.name, hc⟩⟩
  rintro ⟨name, hc⟩
  rwa [hd hc]

/-- The classes have different names. -/
theorem Named.pairwise_classes (hd : d.Named) :
    d.classes.Pairwise fun c c' => c.name ≠ c'.name := by
  rw [classes, List.pairwise_map]
  refine Std.ExtTreeMap.distinct_keys_toList.imp_of_mem fun {p q} hp hq hne heq => hne ?_
  rw [Std.ExtTreeMap.mem_toList_iff_getElem?_eq_some] at hp hq
  rw [Std.LawfulEqOrd.compare_eq_iff_eq, ← hd hp, ← hd hq, heq]

/-! ## Declarations -/

/-- The declared roles are those of the interfaces. -/
theorem Named.getElem?_roles (hd : d.Named) (externals : NameSet) {name : String} {role : Role} :
    (d.declarations externals).roles[name]? = some role ↔
      ∃ c, d[name]? = some c ∧ c.kind = .interface ∧ role = d.role c := by
  have hkeys : (((d.classes.filter fun c => c.kind == .interface).map
      fun c => (c.name, d.role c)).map Prod.fst).Nodup := by
    rw [List.Nodup, List.map_map, List.pairwise_map]
    exact hd.pairwise_classes.filter _
  rw [declarations, Ordered.getElem?_ofList_eq_some_iff hkeys]
  simp only [List.mem_map, List.mem_filter, beq_iff_eq, Prod.mk.injEq, hd.mem_classes]
  constructor
  · rintro ⟨c, ⟨hc, hkind⟩, rfl, rfl⟩
    exact ⟨c, hc, hkind, rfl⟩
  · rintro ⟨c, hc, hkind, rfl⟩
    exact ⟨c, ⟨(hd hc).symm ▸ hc, hkind⟩, hd hc, rfl⟩

/-- The types of the other classes and of the outside names have different names. -/
theorem Named.nodup_tags (hd : d.Named) {externals : NameSet}
    (houtside : ∀ name ∈ externals, name ∉ d) :
    (((d.classes.filter fun c => c.kind != .interface).map d.type ++
      externals.toList.map fun name => { tag := name : TypeDecl }).map TypeDecl.tag).Nodup := by
  rw [List.map_append, List.map_map, List.map_map, List.nodup_append]
  refine ⟨?_, ?_, ?_⟩
  · rw [List.Nodup, List.pairwise_map]
    exact hd.pairwise_classes.filter _
  · change (externals.toList.map id).Nodup
    rw [List.map_id]
    exact Ordered.nodup_toList externals
  · -- An outside name is not that of a class.
    rintro _ hname name' hname' rfl
    obtain ⟨c, hc, rfl⟩ := List.mem_map.mp hname
    obtain ⟨_, houter, rfl⟩ := List.mem_map.mp hname'
    refine houtside _ (Std.ExtTreeSet.mem_toList.mp houter) ?_
    exact Ordered.mem_of_getElem? (hd.mem_classes.mp (List.mem_filter.mp hc).1)

/-- The declared types are those of the other classes and of the outside names. -/
theorem Named.getElem?_types (hd : d.Named) {externals : NameSet}
    (houtside : ∀ name ∈ externals, name ∉ d) {name : String} {decl : TypeDecl} :
    (d.declarations externals).types[name]? = some decl ↔
      (∃ c, d[name]? = some c ∧ c.kind ≠ .interface ∧ decl = d.type c) ∨
        name ∈ externals ∧ decl = { tag := name } := by
  have hkeys : ((((d.classes.filter fun c => c.kind != .interface).map d.type ++
      externals.toList.map fun name => { tag := name : TypeDecl }).map
        fun t => (t.tag, t)).map Prod.fst).Nodup := by
    rw [List.map_map]
    exact hd.nodup_tags houtside
  rw [declarations, Ordered.getElem?_ofList_eq_some_iff hkeys]
  simp only [List.mem_map, List.mem_append, List.mem_filter, bne_iff_ne, Prod.mk.injEq,
    hd.mem_classes, Std.ExtTreeSet.mem_toList]
  constructor
  · rintro ⟨t, ⟨c, ⟨hc, hkind⟩, rfl⟩ | ⟨name, hname, rfl⟩, rfl, rfl⟩
    · exact .inl ⟨c, hc, hkind, rfl⟩
    · exact .inr ⟨hname, rfl⟩
  · rintro (⟨c, hc, hkind, rfl⟩ | ⟨hname, rfl⟩)
    · exact ⟨d.type c, .inl ⟨c, ⟨(hd hc).symm ▸ hc, hkind⟩, rfl⟩, hd hc, rfl⟩
    · exact ⟨_, .inr ⟨name, hname, rfl⟩, rfl, rfl⟩

/-! ## What a class binds -/

/-- A class names another as its superclass, and that is declared and no interface. -/
def Base (d : Declared) (c above : Classifier) : Prop :=
  d.Super c above ∧ above.kind ≠ .interface

/-- A class binds an operation: it or a base above it has a method with a body of this name and
number of parameters. -/
def Binds (d : Declared) (c : Classifier) (op : Operation) : Prop :=
  ∃ above, ReflTransGen d.Base c above ∧
    ∃ m ∈ above.methods, m.isAbstract = false ∧ operation m = op

/-- The base that a type names is a declared class that is no interface. -/
theorem base_type_eq_some_iff {c : Classifier} {tag : String} :
    (d.type c).base = some tag ↔
      c.superclass = some tag ∧ ∃ above, d[tag]? = some above ∧ above.kind ≠ .interface := by
  rw [type, Option.filter_eq_some_iff]
  refine and_congr_right fun _ => ?_
  rw [Bool.and_eq_true, interface?, Option.isNone_iff_eq_none,
    Std.ExtTreeMap.contains_eq_isSome_getElem?]
  cases d[tag]? with
  | none => simp
  | some above => simp [Option.filter]

variable {externals : NameSet}

/-- The chains of bases of a type are those of its class. -/
theorem Named.extends_type_iff (hd : d.Named) (houtside : ∀ name ∈ externals, name ∉ d)
    {c : Classifier} {base : TypeDecl} :
    (d.declarations externals).Extends (d.type c) base ↔
      ∃ above, d.Base c above ∧ base = d.type above := by
  unfold Declarations.Extends Base Super
  simp only [base_type_eq_some_iff, hd.getElem?_types houtside]
  constructor
  · rintro ⟨tag, ⟨hsuper, above, habove, hkind⟩, hbase⟩
    -- The base is declared as a class, so that its type is not that of an outside name.
    rcases hbase with ⟨above', habove', -, rfl⟩ | ⟨houter, -⟩
    · obtain rfl := Option.some.inj (habove.symm.trans habove')
      exact ⟨above, ⟨⟨tag, hsuper, habove⟩, hkind⟩, rfl⟩
    · exact absurd (Ordered.mem_of_getElem? habove) (houtside tag houter)
  · rintro ⟨above, ⟨⟨tag, hsuper, habove⟩, hkind⟩, rfl⟩
    exact ⟨tag, ⟨hsuper, above, habove, hkind⟩, .inl ⟨above, habove, hkind, rfl⟩⟩

/-- The bases above the type of a class are the types of the classes above the class. -/
theorem Named.reflTransGen_extends_iff (hd : d.Named) (houtside : ∀ name ∈ externals, name ∉ d)
    {c : Classifier} {decl : TypeDecl} :
    ReflTransGen (d.declarations externals).Extends (d.type c) decl ↔
      ∃ above, ReflTransGen d.Base c above ∧ decl = d.type above := by
  constructor
  · intro hchain
    induction hchain with
    | refl => exact ⟨c, .refl, rfl⟩
    | tail _ hstep ih =>
      obtain ⟨below, hbelow, rfl⟩ := ih
      obtain ⟨above, habove, rfl⟩ := (hd.extends_type_iff houtside).mp hstep
      exact ⟨above, hbelow.tail habove, rfl⟩
  · rintro ⟨above, hchain, rfl⟩
    induction hchain with
    | refl => exact .refl
    | tail _ hstep ih => exact ih.tail ((hd.extends_type_iff houtside).mpr ⟨_, hstep, rfl⟩)

/-- A registry that could be built has a type for each class that is no interface. It carries no
roles by itself, and binds what the class binds. -/
theorem Named.exists_type_of_class (hd : d.Named) (houtside : ∀ name ∈ externals, name ∉ d)
    {r : Registry} (hr : (d.declarations externals).build = .ok r) {c : Classifier}
    (hc : d[c.name]? = some c) (hkind : c.kind ≠ .interface) :
    ∃ type, r.types[c.name]? = some type ∧ type.isAbstract = !c.isInstantiable ∧
      (∀ role, role ∉ type.roles) ∧ ∀ op, op ∈ type.operations ↔ d.Binds c op := by
  have hdecl := (hd.getElem?_types houtside).mpr (.inl ⟨c, hc, hkind, rfl⟩)
  obtain ⟨type, htype, hresolves⟩ := Declarations.exists_type_of_build hr hdecl
  refine ⟨type, htype, hresolves.isAbstract, fun role => ?_, fun op => ?_⟩
  · -- No declaration of a class carries roles, so that none are inherited.
    rw [hresolves.roles]
    rintro ⟨decl, hchain, hrole⟩
    obtain ⟨above, -, rfl⟩ := (hd.reflTransGen_extends_iff houtside).mp hchain
    exact Std.ExtTreeSet.not_mem_empty hrole
  · rw [hresolves.operations]
    simp only [hd.reflTransGen_extends_iff houtside]
    constructor
    · rintro ⟨_, ⟨above, hchain, rfl⟩, hop⟩
      obtain ⟨m, hm, hop⟩ := List.mem_map.mp ((Ordered.mem_set_ofList _ _).mp hop)
      rw [List.mem_filter, Bool.not_eq_true'] at hm
      exact ⟨above, hchain, m, hm.1, hm.2, hop⟩
    · rintro ⟨above, hchain, m, hm, hbody, hop⟩
      refine ⟨_, ⟨above, hchain, rfl⟩, (Ordered.mem_set_ofList _ _).mpr ?_⟩
      refine List.mem_map.mpr ⟨m, List.mem_filter.mpr ⟨hm, ?_⟩, hop⟩
      rw [hbody, Bool.not_false]

/-- A registry that could be built has a type with instances for each outside name. -/
theorem Named.exists_type_of_outside (hd : d.Named) (houtside : ∀ name ∈ externals, name ∉ d)
    {r : Registry} (hr : (d.declarations externals).build = .ok r) {name : String}
    (hname : name ∈ externals) :
    ∃ type, r.types[name]? = some type ∧ type.isAbstract = false ∧ ∀ role, role ∉ type.roles := by
  have hdecl := (hd.getElem?_types houtside).mpr (.inr ⟨hname, rfl⟩)
  obtain ⟨type, htype, hresolves⟩ := Declarations.exists_type_of_build hr hdecl
  refine ⟨type, htype, hresolves.isAbstract, fun role => ?_⟩
  rw [hresolves.roles]
  rintro ⟨decl, hchain, hrole⟩
  rcases hchain.cases_head with rfl | ⟨_, ⟨tag, htag, -⟩, -⟩
  · exact Std.ExtTreeSet.not_mem_empty hrole
  · cases htag

/-- A registry that could be built knows the role of every declared interface, with the operations
that it requires. -/
theorem Named.exists_role (hd : d.Named) {r : Registry}
    (hr : (d.declarations externals).build = .ok r) {name : String} (hname : d.IsInterface name) :
    ∃ role, r.roles[name]? = some role ∧ ∀ op, op ∈ role.required ↔ d.Requires name op := by
  obtain ⟨c, hc, hkind⟩ := hname
  obtain rfl := hd hc
  rw [Declarations.roles_build hr]
  refine ⟨d.role c, (hd.getElem?_roles externals).mpr ⟨c, hc, hkind, rfl⟩, fun op => ?_⟩
  exact mem_required_role ⟨c, hc, hkind⟩

/-- A type fulfils the role of a declared interface exactly when it binds what the role requires. -/
theorem Named.fulfils_iff (hd : d.Named) {r : Registry}
    (hr : (d.declarations externals).build = .ok r) {type : TypeDef} {name : String}
    (hname : d.IsInterface name) :
    r.Fulfils type name ↔ ∀ op, d.Requires name op → op ∈ type.operations := by
  obtain ⟨role, hrole, hrequired⟩ := hd.exists_role hr hname
  constructor
  · rintro ⟨role', hrole', hbinds⟩ op hop
    obtain rfl := Option.some.inj (hrole.symm.trans hrole')
    exact hbinds op ((hrequired op).mpr hop)
  · exact fun hbinds => ⟨role, hrole, fun op hop => hbinds op ((hrequired op).mp hop)⟩

end ClassGraph.Declared
