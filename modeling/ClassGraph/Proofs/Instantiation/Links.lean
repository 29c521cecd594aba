import ClassGraph.Proofs.Graph.Admission
import ClassGraph.Proofs.Instantiation.Entities
import ClassGraph.Proofs.Model.Relations

/-!
# The links of class models

The links that the classes ask for depend on the entities of their names only, so that they are
known before the first is added (`asked`, `foldl_addLinks_eq`). Adding them brings no issue exactly
when the graph admits them all (`issues_foldl_addLink`).
-/

namespace ClassGraph.Instantiation

/-! ## The links of a class -/

/-- The links to the parts of a class. -/
def partLinks (i : Instantiation) (c : Classifier) (source : EntityId) : List Link :=
  (c.targets .composition).filterMap fun name =>
    i.entityOf[name]?.map fun target => { source, target, kind := .composition : Link }

/-- The link of a relation. -/
def referenceLink (i : Instantiation) (source : EntityId) (r : Relation) : Option Link :=
  i.entityOf[r.target]?.map fun target =>
    { source, target, kind := r.kind, label := r.via, cardinality := r.cardinality : Link }

/-- The links of the aggregations and associations of a class. -/
def referenceLinks (i : Instantiation) (c : Classifier) (source : EntityId) : List Link :=
  (c.relations.filter fun r => r.kind == .aggregation || r.kind == .association).filterMap
    (i.referenceLink source)

/-- The links to what else a class depends on. -/
def useLinks (i : Instantiation) (c : Classifier) (source : EntityId) : List Link :=
  c.uncoveredDependencies.filterMap fun name =>
    i.entityOf[name]?.map fun target => { source, target, kind := .dependency : Link }

/-- The links of a class are its compositions, then its references, then its dependencies. -/
theorem linksOf_eq (i : Instantiation) (c : Classifier) (source : EntityId) :
    i.linksOf c source = i.partLinks c source ++ i.referenceLinks c source ++ i.useLinks c source :=
  rfl

variable {i : Instantiation} {c : Classifier} {source : EntityId} {l : Link}

/-- A class asks for a composition to each target of its compositions that has an entity. -/
theorem mem_partLinks : l ∈ i.partLinks c source ↔
    ∃ name target, name ∈ c.targets .composition ∧ i.entityOf[name]? = some target ∧
      l = { source, target, kind := .composition } := by
  simp only [partLinks, List.mem_filterMap, Option.map_eq_some_iff]
  constructor
  · rintro ⟨name, hname, target, htarget, rfl⟩
    exact ⟨name, target, hname, htarget, rfl⟩
  · rintro ⟨name, target, hname, htarget, rfl⟩
    exact ⟨name, hname, target, htarget, rfl⟩

/-- A relation asks for a link when its target has an entity, under its member. -/
theorem referenceLink_eq_some_iff {r : Relation} :
    i.referenceLink source r = some l ↔ ∃ target, i.entityOf[r.target]? = some target ∧
      l = { source, target, kind := r.kind, label := r.via, cardinality := r.cardinality } := by
  simp only [referenceLink, Option.map_eq_some_iff, eq_comm (a := l)]

/-- The references of a class are the links for which its aggregations and associations ask. -/
theorem mem_referenceLinks : l ∈ i.referenceLinks c source ↔
    ∃ r ∈ c.relations, (r.kind = .aggregation ∨ r.kind = .association) ∧
      i.referenceLink source r = some l := by
  simp only [referenceLinks, List.mem_filterMap, List.mem_filter, Bool.or_eq_true, beq_iff_eq,
    and_assoc]

/-- A class asks for a dependency to each name that only its methods use and that has an entity. -/
theorem mem_useLinks : l ∈ i.useLinks c source ↔
    ∃ name target, name ∈ c.uncoveredDependencies ∧ i.entityOf[name]? = some target ∧
      l = { source, target, kind := .dependency } := by
  simp only [useLinks, List.mem_filterMap, Option.map_eq_some_iff]
  constructor
  · rintro ⟨name, hname, target, htarget, rfl⟩
    exact ⟨name, target, hname, htarget, rfl⟩
  · rintro ⟨name, target, hname, htarget, rfl⟩
    exact ⟨name, hname, target, htarget, rfl⟩

/-- A link of a class leads from its entity to that of some name. -/
theorem ends_of_mem_linksOf (hl : l ∈ i.linksOf c source) :
    l.source = source ∧ ∃ name : String, i.entityOf[name]? = some l.target := by
  rw [linksOf_eq, List.mem_append, List.mem_append] at hl
  rcases hl with (hl | hl) | hl
  · obtain ⟨name, target, -, htarget, rfl⟩ := mem_partLinks.mp hl
    exact ⟨rfl, name, htarget⟩
  · obtain ⟨r, -, -, hr⟩ := mem_referenceLinks.mp hl
    obtain ⟨target, htarget, rfl⟩ := referenceLink_eq_some_iff.mp hr
    exact ⟨rfl, r.target, htarget⟩
  · obtain ⟨name, target, -, htarget, rfl⟩ := mem_useLinks.mp hl
    exact ⟨rfl, name, htarget⟩

/-- What is asked for a part is a composition. -/
theorem kind_of_mem_partLinks (hl : l ∈ i.partLinks c source) : l.kind = .composition := by
  obtain ⟨name, target, -, -, rfl⟩ := mem_partLinks.mp hl
  rfl

/-- What is asked for a reference is an aggregation or an association. -/
theorem kind_of_mem_referenceLinks (hl : l ∈ i.referenceLinks c source) :
    l.kind = .aggregation ∨ l.kind = .association := by
  obtain ⟨r, -, hkind, hr⟩ := mem_referenceLinks.mp hl
  obtain ⟨target, -, rfl⟩ := referenceLink_eq_some_iff.mp hr
  exact hkind

/-- What is asked for a use is a dependency. -/
theorem kind_of_mem_useLinks (hl : l ∈ i.useLinks c source) : l.kind = .dependency := by
  obtain ⟨name, target, -, -, rfl⟩ := mem_useLinks.mp hl
  rfl

/-- The links of a class that are of some kinds. -/
theorem filter_linksOf (p : RelationKind → Bool) (i : Instantiation) (c : Classifier)
    (source : EntityId) :
    (i.linksOf c source).filter (fun l => p l.kind) =
      (if p .composition then i.partLinks c source else []) ++
        (i.referenceLinks c source).filter (fun l => p l.kind) ++
          (if p .dependency then i.useLinks c source else []) := by
  have hparts : (i.partLinks c source).filter (fun l => p l.kind) =
      if p .composition then i.partLinks c source else [] := by
    split_ifs with hp
    · exact List.filter_eq_self.mpr fun l hl => (kind_of_mem_partLinks hl).symm ▸ hp
    · exact List.filter_eq_nil_iff.mpr fun l hl => (kind_of_mem_partLinks hl).symm ▸ hp
  have huses : (i.useLinks c source).filter (fun l => p l.kind) =
      if p .dependency then i.useLinks c source else [] := by
    split_ifs with hp
    · exact List.filter_eq_self.mpr fun l hl => (kind_of_mem_useLinks hl).symm ▸ hp
    · exact List.filter_eq_nil_iff.mpr fun l hl => (kind_of_mem_useLinks hl).symm ▸ hp
  rw [linksOf_eq, List.filter_append, List.filter_append, hparts, huses]

/-- The compositions among the links of a class are those to its parts. -/
theorem filter_composition_linksOf (i : Instantiation) (c : Classifier) (source : EntityId) :
    (i.linksOf c source).filter (fun l => l.kind = .composition) = i.partLinks c source := by
  have hreferences : (i.referenceLinks c source).filter (fun l => l.kind = .composition) = [] := by
    refine List.filter_eq_nil_iff.mpr fun l hl => ?_
    rcases kind_of_mem_referenceLinks hl with hkind | hkind <;> simp [hkind]
  simpa [hreferences] using filter_linksOf (fun k => decide (k = .composition)) i c source

/-- The associations among the links of a class are among those of its relations. -/
theorem filter_association_linksOf (i : Instantiation) (c : Classifier) (source : EntityId) :
    (i.linksOf c source).filter (fun l => l.kind = .association) =
      (i.referenceLinks c source).filter fun l => l.kind = .association := by
  simpa using filter_linksOf (fun k => decide (k = .association)) i c source

/-- The aggregations and associations among the links of a class are those of its relations, one for
each. -/
theorem filter_reference_linksOf (i : Instantiation) (c : Classifier) (source : EntityId) :
    (i.linksOf c source).filter (fun l => l.kind = .aggregation ∨ l.kind = .association) =
      i.referenceLinks c source := by
  have hreferences : (i.referenceLinks c source).filter
      (fun l => l.kind = .aggregation ∨ l.kind = .association) = i.referenceLinks c source :=
    List.filter_eq_self.mpr fun l hl => decide_eq_true (kind_of_mem_referenceLinks hl)
  simpa only [hreferences, reduceCtorEq, or_self, decide_false, Bool.false_eq_true, if_false,
    List.nil_append, List.append_nil] using
      filter_linksOf (fun k => decide (k = .aggregation ∨ k = .association)) i c source

/-- The dependencies among the links of a class are those to what else it depends on. -/
theorem filter_dependency_linksOf (i : Instantiation) (c : Classifier) (source : EntityId) :
    (i.linksOf c source).filter (fun l => l.kind = .dependency) = i.useLinks c source := by
  have hreferences : (i.referenceLinks c source).filter (fun l => l.kind = .dependency) = [] := by
    refine List.filter_eq_nil_iff.mpr fun l hl => ?_
    rcases kind_of_mem_referenceLinks hl with hkind | hkind <;> simp [hkind]
  simpa [hreferences] using filter_linksOf (fun k => decide (k = .dependency)) i c source

/-! ## The links of all classes -/

/-- The links that a class asks for: none without an entity. -/
def classLinks (i : Instantiation) (c : Classifier) : List Link :=
  i.entityOf[c.name]?.elim [] (i.linksOf c)

/-- A class asks for links when it has an entity, from this entity. -/
theorem mem_classLinks :
    l ∈ i.classLinks c ↔ ∃ source, i.entityOf[c.name]? = some source ∧ l ∈ i.linksOf c source := by
  unfold classLinks
  cases i.entityOf[c.name]? <;> simp

/-- The links that classes ask for, each with the name of its class. -/
def asked (i : Instantiation) (classes : List Classifier) : List (String × Link) :=
  classes.flatMap fun c => (i.classLinks c).map fun l => (c.name, l)

/-- What classes ask for is what one of them asks for under its name. -/
theorem mem_asked {classes : List Classifier} {name : String} :
    (name, l) ∈ i.asked classes ↔ ∃ c ∈ classes, c.name = name ∧ l ∈ i.classLinks c := by
  unfold asked
  rw [List.mem_flatMap]
  refine exists_congr fun c => and_congr_right fun _ => ?_
  rw [List.mem_map]
  constructor
  · rintro ⟨l', hl, heq⟩
    obtain ⟨rfl, rfl⟩ := Prod.ext_iff.mp heq
    exact ⟨rfl, hl⟩
  · rintro ⟨rfl, hl⟩
    exact ⟨l, hl, rfl⟩

/-- The links that classes ask for are those of each class in their order. -/
theorem map_snd_asked (i : Instantiation) (classes : List Classifier) :
    (i.asked classes).map Prod.snd = classes.flatMap i.classLinks := by
  simp [asked, List.map_flatMap, Function.comp_def]

/-- Adding a link leaves the entities of the names. -/
theorem entityOf_addLink (className : String) (i : Instantiation) (l : Link) :
    (addLink className i l).entityOf = i.entityOf := by
  unfold addLink
  split
  · rfl
  · rfl

/-- Adding links gives no name another entity. -/
theorem entityOf_foldl_addLink (asked : List (String × Link)) :
    ∀ i : Instantiation, (asked.foldl (fun i p => addLink p.1 i p.2) i).entityOf = i.entityOf := by
  induction asked with
  | nil => exact fun _ => rfl
  | cons p asked ih => exact fun i => (ih _).trans (entityOf_addLink p.1 i p.2)

/-- Adding a link leaves the types. -/
theorem registry_addLink (className : String) (i : Instantiation) (l : Link) :
    (addLink className i l).graph.registry = i.graph.registry := by
  unfold addLink
  cases hlink : i.graph.link l with
  | error => rfl
  | ok result =>
    obtain ⟨-, -, -, rfl⟩ := EntityGraph.link_eq_ok_iff.mp hlink
    rfl

/-- Adding links leaves the types as they are. -/
theorem registry_foldl_addLink (asked : List (String × Link)) :
    ∀ i : Instantiation,
      (asked.foldl (fun i p => addLink p.1 i p.2) i).graph.registry = i.graph.registry := by
  induction asked with
  | nil => exact fun _ => rfl
  | cons p asked ih => exact fun i => (ih _).trans (registry_addLink p.1 i p.2)

/-- The links of a class depend on the entities of the names only. -/
theorem linksOf_congr {i i' : Instantiation} (h : i.entityOf = i'.entityOf) :
    i.linksOf = i'.linksOf := by
  funext c source
  unfold linksOf
  rw [h]

/-- Adding the links of all classes is adding those that are asked for, one after the other. -/
theorem foldl_addLinks_eq (classes : List Classifier) :
    ∀ {i' : Instantiation}, i'.entityOf = i.entityOf →
      classes.foldl addLinks i' = (i.asked classes).foldl (fun i p => addLink p.1 i p.2) i' := by
  induction classes with
  | nil => exact fun _ => rfl
  | cons c classes ih =>
    intro i' h
    -- What a class asks for has not changed since the first link was added.
    have hclass : i'.addLinks c =
        ((i.classLinks c).map fun l => (c.name, l)).foldl
          (fun i p => addLink p.1 i p.2) i' := by
      unfold addLinks classLinks
      rw [List.foldl_map, h, linksOf_congr h]
      cases i.entityOf[c.name]? <;> rfl
    have hasked : i.asked (c :: classes) =
        ((i.classLinks c).map fun l => (c.name, l)) ++
          i.asked classes := rfl
    rw [List.foldl_cons, hasked, List.foldl_append, ← hclass]
    refine ih ?_
    rw [hclass, entityOf_foldl_addLink, h]

/-- A link between live entities that keeps the rule of its kind becomes an edge. -/
theorem addLink_of_ok (hs : l.source ∈ i.graph.entities) (ht : l.target ∈ i.graph.entities)
    (hcheck : i.graph.checkKind l = .ok ()) (className : String) :
    addLink className i l = { i with graph := (i.graph.insertEdge l).2 } := by
  unfold addLink
  rw [EntityGraph.link_of_live hs ht, hcheck]
  rfl

/-- A link between live entities that breaks the rule of its kind becomes an issue. -/
theorem addLink_of_error (hs : l.source ∈ i.graph.entities) (ht : l.target ∈ i.graph.entities)
    {e : GraphError} (hcheck : i.graph.checkKind l = .error e) (className : String) :
    addLink className i l = i.addIssue className e := by
  unfold addLink
  rw [EntityGraph.link_of_live hs ht, hcheck]
  rfl

/-- Links between live entities bring no issue exactly when the graph admits them. -/
theorem issues_foldl_addLink (asked : List (String × Link)) :
    ∀ {i : Instantiation}, i.graph.WellFormed →
      (∀ p ∈ asked, p.2.source ∈ i.graph.entities ∧ p.2.target ∈ i.graph.entities) →
      ((asked.foldl (fun i p => addLink p.1 i p.2) i).issues = [] ↔
        i.issues = [] ∧ i.graph.Admits (asked.map Prod.snd)) := by
  induction asked with
  | nil => exact fun h _ => (and_iff_left h.admits_nil).symm
  | cons p asked ih =>
    intro i h hlive
    rw [List.forall_mem_cons] at hlive
    obtain ⟨⟨hs, ht⟩, hlive⟩ := hlive
    rw [List.foldl_cons, List.map_cons, h.admits_cons]
    cases hcheck : i.graph.checkKind p.2 with
    | ok =>
      -- The others meet the graph with this link.
      have hwf : (i.graph.insertEdge p.2).2.WellFormed :=
        h.link (i := (i.graph.insertEdge p.2).1)
          (EntityGraph.link_eq_ok_iff.mpr ⟨hs, ht, hcheck, rfl⟩)
      rw [addLink_of_ok hs ht hcheck]
      refine (ih (i := { i with graph := (i.graph.insertEdge p.2).2 }) hwf hlive).trans ?_
      rw [and_iff_right (rfl : Except.ok _ = Except.ok ())]
    | error e =>
      -- An issue stays, whatever the others bring.
      rw [addLink_of_error hs ht hcheck]
      refine (ih (i := i.addIssue p.1 e) h hlive).trans ?_
      simp [addIssue]

end ClassGraph.Instantiation
