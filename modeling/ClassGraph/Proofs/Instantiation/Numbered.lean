import Mathlib.Data.List.Perm.Subperm
import ClassGraph.Proofs.Instantiation.Verdicts

/-!
# What an instantiation depends on, and its numbers

Of a list of classes the last one of each name counts and nothing else, so that lists with the same
last classes have the same instantiation, down to the numbers of edges and the order of issues
(`instantiate_congr`). The entities are numbered from one on, first the classes with instances and
then the outside names, each in the order of their names (`Named.numbered_made`): every entity that
is made takes the next number (`Numbered.create`), and a class or an outside name takes one number
at most (`Numbered.foldl`).
-/

namespace ClassGraph

namespace Instantiation

/-- The entities were made for these names, in this order, and are numbered from one on. -/
structure Numbered (names : List String) (i : Instantiation) : Prop where
  /-- The next entity is the next of the list. -/
  nextEntity : i.graph.nextEntity = names.length + 1
  /-- Each entity has the number of its name. -/
  entities : (i.graph.entities.toList.map fun p => (p.1.number, p.2.typeTag)) =
    names.mapIdx fun k name => (k + 1, name)

variable {names : List String} {i i' : Instantiation}

/-- Where no entity has been made, none has a number. -/
theorem numbered_empty (r : Registry) : Numbered [] { graph := .empty r } where
  nextEntity := rfl
  entities := rfl

/-- An issue changes nothing about the numbers. -/
theorem Numbered.addIssue (h : Numbered names i) (className : String) (error : GraphError) :
    Numbered names (i.addIssue className error) :=
  ⟨h.nextEntity, h.entities⟩

/-- An entity of a type has the number of the type in the list. -/
theorem Numbered.exists_entity_iff (h : Numbered names i) {id : EntityId} {name : String} :
    (∃ entity, i.graph.entities[id]? = some entity ∧ entity.typeTag = name) ↔
      ∃ k, id.number = k + 1 ∧ names[k]? = some name := by
  have hstored : (id.number, name) ∈ (i.graph.entities.toList.map fun p =>
      (p.1.number, p.2.typeTag)) ↔
      ∃ entity, i.graph.entities[id]? = some entity ∧ entity.typeTag = name := by
    rw [List.mem_map]
    constructor
    · rintro ⟨⟨⟨_⟩, entity⟩, hmem, heq⟩
      obtain ⟨rfl, rfl⟩ := Prod.mk.inj heq
      exact ⟨entity, Std.ExtTreeMap.mem_toList_iff_getElem?_eq_some.mp hmem, rfl⟩
    · rintro ⟨entity, hentity, rfl⟩
      exact ⟨(id, entity), Std.ExtTreeMap.mem_toList_iff_getElem?_eq_some.mpr hentity, rfl⟩
  rw [← hstored, h.entities, List.mem_mapIdx]
  simp only [Prod.mk.injEq, List.getElem?_eq_some_iff]
  constructor
  · rintro ⟨k, hk, hnumber, hname⟩
    exact ⟨k, hnumber.symm, hk, hname⟩
  · rintro ⟨k, hnumber, hk, hname⟩
    exact ⟨k, hk, hnumber.symm, hname⟩

/-- An entity that is made takes the next number. -/
theorem Numbered.create (h : Numbered names i) {name : String} {roles : List String}
    (hc : i.create name roles = .ok i') : Numbered (names ++ [name]) i' := by
  obtain ⟨⟨x, g⟩, hgraph, rfl⟩ := Outcome.map_eq_ok_iff.mp hc
  obtain ⟨all, -, rfl, rfl⟩ := EntityGraph.create_eq_ok_iff.mp hgraph
  have hlast : ∀ y ∈ i.graph.entities, compare y (⟨i.graph.nextEntity⟩ : EntityId) = .lt := by
    intro y hy
    obtain ⟨entity, hentity⟩ := (Ordered.mem_iff_exists _ _).mp hy
    obtain ⟨k, hnumber, hk⟩ := h.exists_entity_iff.mp ⟨entity, hentity, rfl⟩
    have hlength : k < names.length := (List.getElem?_eq_some_iff.mp hk).1
    refine Nat.compare_eq_lt.mpr ?_
    rw [hnumber, h.nextEntity]
    exact Nat.succ_lt_succ hlength
  constructor
  · rw [List.length_append, List.length_singleton]
    exact congrArg (· + 1) h.nextEntity
  · rw [List.mapIdx_concat, ← h.entities, ← h.nextEntity]
    dsimp only
    rw [Ordered.toList_insert_of_lt hlast, List.map_append, List.map_singleton]

/-- A name takes one number at most. -/
def Takes (names : List String) (name : String) (i : Instantiation) : Prop :=
  Numbered names i ∨ Numbered (names ++ [name]) i

/-- An entity that is created or reported takes the next number or none. -/
theorem Numbered.createOrReport (h : Numbered names i) (name : String) (roles : List String) :
    Takes names name (i.createOrReport name roles) := by
  unfold Instantiation.createOrReport
  split
  next hc => exact .inr (h.create hc)
  next => exact .inl (h.addIssue _ _)

/-- A class that is added takes the next number or none. -/
theorem Numbered.addClass (h : Numbered names i) (name : String) (roles : List String) :
    Takes names name (i.addClass name roles) := by
  unfold Instantiation.addClass
  split
  next hc => exact .inr (h.create hc)
  next => exact (h.addIssue _ _).createOrReport _ _
  next => exact .inl (h.addIssue _ _)

/-- A fold whose step takes one number at most numbers some of the names, in their order. -/
theorem Numbered.foldl {α : Type} {step : Instantiation → α → Instantiation} {nameOf : α → String}
    (hstep : ∀ {names : List String} {i : Instantiation}, Numbered names i →
      ∀ a, Takes names (nameOf a) (step i a)) (items : List α) :
    ∀ {names : List String} {i : Instantiation}, Numbered names i →
      ∃ more, more.Sublist (items.map nameOf) ∧ Numbered (names ++ more) (items.foldl step i) := by
  induction items with
  | nil => exact fun {names i} h => ⟨[], .slnil, by rwa [List.append_nil]⟩
  | cons a items ih =>
    intro names i h
    rcases hstep h a with hfirst | hfirst
    · obtain ⟨more, hmore, hall⟩ := ih hfirst
      exact ⟨more, hmore.cons _, hall⟩
    · obtain ⟨more, hmore, hall⟩ := ih hfirst
      exact ⟨nameOf a :: more, hmore.cons_cons _, by rwa [List.append_cons]⟩

/-- In an instantiation whose entities are numbered, a name has the number of its place. -/
theorem Numbered.entityOf_iff (h : Numbered names i) {r : Registry} {P : String → Prop}
    (hi : Populated r P i) {name : String} {id : EntityId} :
    i.entityOf[name]? = some id ↔ ∃ k, id.number = k + 1 ∧ names[k]? = some name := by
  rw [hi.entityOf, h.exists_entity_iff]

/-- The names that have an entity are those of the list. -/
theorem Numbered.mem_iff (h : Numbered names i) {r : Registry} {P : String → Prop}
    (hi : Populated r P i) {name : String} : name ∈ names ↔ P name := by
  rw [← hi.mem_entityOf, Ordered.mem_iff_exists, List.mem_iff_getElem?]
  simp only [h.entityOf_iff hi]
  constructor
  · rintro ⟨k, hk⟩
    exact ⟨⟨k + 1⟩, k, rfl, hk⟩
  · rintro ⟨_, k, -, hk⟩
    exact ⟨k, hk⟩

end Instantiation

namespace Declared

variable {d : Declared} {settings : Extraction} {r : Registry}

/-- The classes are in the order of their names. -/
theorem Named.ascending_classes (hd : d.Named) :
    d.classes.Pairwise fun c c' => c.name < c'.name := by
  rw [classes, List.pairwise_map]
  refine Std.ExtTreeMap.ordered_keys_toList.imp_of_mem fun {p q} hp hq hlt => ?_
  rw [Std.ExtTreeMap.mem_toList_iff_getElem?_eq_some] at hp hq
  rw [hd hp, hd hq]
  exact compare_lt_iff_lt.mp hlt

/-- The names that have an entity: those of the classes with instances, then the outside ones. -/
def entityNames (d : Declared) (settings : Extraction) : List String :=
  d.instances.map (·.name) ++ (d.outside settings).toList

/-- The names that take numbers are those that have entities. -/
theorem Named.mem_entityNames (hd : d.Named) {name : String} :
    name ∈ d.entityNames settings ↔ d.HasEntity settings name := by
  rw [entityNames, List.mem_append, List.mem_map, hd.exists_mem_instances_iff,
    Std.ExtTreeSet.mem_toList, hd.mem_outside, HasEntity]

/-- The names of the instances ascend. -/
theorem Named.ascending_instances (hd : d.Named) :
    (d.instances.map (·.name)).Pairwise (· < ·) :=
  List.pairwise_map.mpr (hd.ascending_classes.filter _)

/-- No name takes two numbers. -/
theorem Named.nodup_entityNames (hd : d.Named) : (d.entityNames settings).Nodup := by
  have hnodup {l : List String} (h : l.Pairwise (· < ·)) : l.Nodup := h.imp ne_of_lt
  refine List.nodup_append.mpr
    ⟨hnodup hd.ascending_instances, hnodup (Ordered.ascending_toList _), ?_⟩
  -- An outside name is not that of a class.
  rintro _ hname name' hname' rfl
  obtain ⟨c, hc, rfl⟩ := List.mem_map.mp hname
  have houter := hd.notMem_of_mem_outside _ (Std.ExtTreeSet.mem_toList.mp hname')
  exact houter (Ordered.mem_of_getElem? (hd.mem_instances.mp hc).1)

/-- Before the first link, all names that have an entity are numbered, in their order. -/
theorem Named.numbered_made (hd : d.Named)
    (hr : (d.declarations (d.outside settings)).build = .ok r) :
    (d.made settings r).Numbered (d.entityNames settings) := by
  obtain ⟨inner, hinner, hclasses⟩ := Instantiation.Numbered.foldl
    (fun h c => h.addClass c.name (d.rolesOf c).toList) d.instances
    (Instantiation.numbered_empty r)
  obtain ⟨outer, houter, hall⟩ := Instantiation.Numbered.foldl
    (fun h (name : String) => h.createOrReport name []) (d.outside settings).toList hclasses
  rw [List.nil_append] at hall
  rw [List.map_id'] at houter
  -- None of the names was passed over, since all of them have an entity.
  have hsublist : (inner ++ outer).Sublist (d.entityNames settings) := hinner.append houter
  have hsubset : d.entityNames settings ⊆ inner ++ outer := fun name hname =>
    (hall.mem_iff (hd.made_spec hr).2).mpr (hd.mem_entityNames.mp hname)
  have hlength := (List.subperm_of_subset hd.nodup_entityNames hsubset).length_le
  rwa [hsublist.eq_of_length_le hlength] at hall

end Declared

/-! ## What counts of a list -/

/-- Lists of classes with the same last class of each name declare the same. -/
theorem Declared.ofList_congr {classes classes' : List Classifier}
    (h : ∀ name, (classes.reverse.find? fun c => c.name = name) =
      classes'.reverse.find? fun c => c.name = name) :
    ofList classes = ofList classes' := by
  refine Std.ExtTreeMap.ext_getElem? fun name => ?_
  rw [getElem?_ofList, getElem?_ofList, h]

/-- Only what is declared at last counts. -/
theorem instantiate_congr {classes classes' : List Classifier}
    (h : Declared.ofList classes = Declared.ofList classes') (settings : Extraction) :
    instantiate settings classes = instantiate settings classes' := by
  unfold instantiate
  rw [h]

/-- The last class of a name is the only one when all names are different. -/
theorem find?_eq_some_iff_of_nodup {classes : List Classifier}
    (h : (classes.map (·.name)).Nodup) {name : String} {c : Classifier} :
    (classes.reverse.find? fun c => c.name = name) = some c ↔ c ∈ classes ∧ c.name = name := by
  have hone : ∀ {c : Classifier},
      (classes.reverse.find? fun c => c.name = name) = some c → c ∈ classes ∧ c.name = name :=
    fun hc => ⟨List.mem_reverse.mp (List.mem_of_find?_eq_some hc),
      by simpa using List.find?_some hc⟩
  refine ⟨hone, fun ⟨hc, hname⟩ => ?_⟩
  cases hfind : classes.reverse.find? fun c => c.name = name with
  | none =>
    have hnone := List.find?_eq_none.mp hfind c (List.mem_reverse.mpr hc)
    simp [hname] at hnone
  | some c' =>
    obtain ⟨hc', hname'⟩ := hone hfind
    rw [List.inj_on_of_nodup_map h hc' hc (hname'.trans hname.symm)]

/-- Classes of different names have the same last classes in every order. -/
theorem find?_eq_of_perm {classes classes' : List Classifier} (hperm : classes.Perm classes')
    (h : (classes.map (·.name)).Nodup) (name : String) :
    (classes.reverse.find? fun c => c.name = name) =
      classes'.reverse.find? fun c => c.name = name := by
  have h' : (classes'.map (·.name)).Nodup := (hperm.map _).nodup_iff.mp h
  refine Option.ext fun c => ?_
  rw [find?_eq_some_iff_of_nodup h, find?_eq_some_iff_of_nodup h', hperm.mem_iff]

/-- Two lists of classes with the same last class of each name, such as two orders of classes of
different names, have the same instantiation. In it the classes with instances are numbered from one
on in the order of their names, and behind them the outside names are, in their order. -/
theorem instantiate_lastDeclared (settings : Extraction) (classes : List Classifier) :
    let last := fun name => classes.reverse.find? fun c => c.name = name
    (∀ classes' : List Classifier,
      (∀ name, last name = classes'.reverse.find? fun c => c.name = name) →
        instantiate settings classes = instantiate settings classes') ∧
    (∀ classes' : List Classifier, classes.Perm classes' → (classes.map (·.name)).Nodup →
      instantiate settings classes = instantiate settings classes') ∧
    ∀ i, instantiate settings classes = .ok i → ∃ inner outer : List String,
      inner.Pairwise (· < ·) ∧ outer.Pairwise (· < ·) ∧
      (∀ name, name ∈ inner ↔ ∃ c, last name = some c ∧ c.isInstantiable = true) ∧
      (∀ name, name ∈ outer ↔ settings.includeExternal = true ∧ last name = none ∧
        ∃ other c, last other = some c ∧ ∃ r ∈ c.relations, r.target = name) ∧
      (i.graph.entities.toList.map fun p => (p.1.number, p.2.typeTag)) =
        (inner ++ outer).mapIdx (fun k name => (k + 1, name)) ∧
      ∀ (name : String) (id : EntityId), i.entityOf[name]? = some id ↔
        ∃ k, id.number = k + 1 ∧ (inner ++ outer)[k]? = some name := by
  intro last
  have hd : (Declared.ofList classes).Named := Declared.named_ofList classes
  have hlast : ∀ name : String, (Declared.ofList classes)[name]? = last name :=
    Declared.getElem?_ofList classes
  refine ⟨fun classes' h => ?_, fun classes' hperm hnames => ?_, fun i hi => ?_⟩
  · exact instantiate_congr (Declared.ofList_congr h) settings
  · exact instantiate_congr (Declared.ofList_congr (find?_eq_of_perm hperm hnames)) settings
  · obtain ⟨r, verdicts, hr, hadds, -⟩ := Instantiation.exists_adds_of_instantiate hi
    have hnumbered := hd.numbered_made hr
    have hmade := (hd.made_spec hr).2
    refine ⟨(Declared.ofList classes).instances.map (·.name),
      ((Declared.ofList classes).outside settings).toList, hd.ascending_instances,
      Ordered.ascending_toList _, fun name => ?_, fun name => ?_, ?_, ?_⟩
    · rw [List.mem_map, hd.exists_mem_instances_iff]
      simp only [hlast]
    · rw [Std.ExtTreeSet.mem_toList, hd.mem_outside, ← getElem?_eq_none_iff]
      simp only [hlast]
    · rw [hadds.entities]
      exact hnumbered.entities
    · intro name id
      rw [hadds.entityOf]
      exact hnumbered.entityOf_iff hmade

/-- A pier. -/
def pier : Classifier := { name := "Pier", kind := .plain }

/-- A ship that depends on the sea, which is not declared. -/
def ship : Classifier :=
  { name := "Ship", kind := .plain, relations := [{ kind := .dependency, target := "Sea" }] }

/-- An older declaration of the ship does not count, and neither does the order of both classes. The
sea is numbered behind them. -/
theorem instantiate_harbor :
    let settings : Extraction := { includeExternal := true }
    let older : Classifier := { name := "Ship", kind := .enum }
    (∀ name, ([pier, ship].reverse.find? fun c => c.name = name) =
      [older, pier, ship].reverse.find? fun c => c.name = name) ∧
    [pier, ship].Perm [ship, pier] ∧ ([pier, ship].map (·.name)).Nodup ∧
    instantiate settings [older, pier, ship] = instantiate settings [ship, pier] ∧
    ∃ i, instantiate settings [pier, ship] = .ok i ∧ ∃ names : List String,
      (i.graph.entities.toList.map fun p => (p.1.number, p.2.typeTag)) =
        names.mapIdx (fun k name => (k + 1, name)) ∧ names[2]? = some "Sea" := by
  intro settings older
  have hlast : ∀ name, ([pier, ship].reverse.find? fun c => c.name = name) =
      [older, pier, ship].reverse.find? fun c => c.name = name := by
    intro name
    by_cases hname : older.name = name
    · subst hname
      rfl
    · have happend : [older, pier, ship].reverse = [pier, ship].reverse ++ [older] := rfl
      rw [happend, List.find?_append, List.find?_cons_of_neg (by simpa using hname),
        List.find?_nil, Option.or_none]
  have hperm : [pier, ship].Perm [ship, pier] := List.Perm.swap ..
  have hnames : ([pier, ship].map (·.name)).Nodup := by decide
  obtain ⟨i, hi, hsea⟩ : ∃ i, instantiate settings [pier, ship] = .ok i ∧
      i.entityOf["Sea"]? = some ⟨3⟩ := ⟨_, rfl, by decide⟩
  obtain ⟨hcongr, horder, hnumbers⟩ := instantiate_lastDeclared settings [pier, ship]
  obtain ⟨inner, outer, -, -, -, -, hentities, hnumber⟩ := hnumbers i hi
  obtain ⟨k, hk, hname⟩ := (hnumber "Sea" ⟨3⟩).mp hsea
  obtain rfl : 2 = k := Nat.succ.inj hk
  exact ⟨hlast, hperm, hnames, (hcongr _ hlast).symm.trans (horder _ hperm hnames), i, hi,
    inner ++ outer, hentities, hname⟩

end ClassGraph
