import Mathlib.Data.List.Pairwise
import ClassGraph.Proofs.Instantiation.Links

/-!
# When class models have no issues

An instantiation has no issues exactly when its classes keep three rules that say nothing of the
order in which links are added (`Declared.Consistent`): every class binds what its roles require,
every part belongs to one whole and no whole is a part of itself, and no class holds two references
of one name of which one allows a single target. `instantiate_issues_eq_nil_iff` is the main result.
-/

open Relation

namespace ClassGraph

namespace Declared

/-- A class owns another: both have entities, and the first has a composition to the second. -/
def Owns (d : Declared) (settings : Extraction) (whole part : String) : Prop :=
  whole ≠ part ∧ d.HasEntity settings whole ∧ d.HasEntity settings part ∧
    ∃ c, d[whole]? = some c ∧ ∃ r ∈ c.relations, r.kind = .composition ∧ r.target = part

/-- Two associations to classes with entities have the same name, and one of them allows a single
target. -/
def ReferencesClash (d : Declared) (settings : Extraction) (r r' : Relation) : Prop :=
  r.kind = .association ∧ r'.kind = .association ∧ d.HasEntity settings r.target ∧
    d.HasEntity settings r'.target ∧ r.via = r'.via ∧
    (r.cardinality = some .one ∨ r'.cardinality = some .one)

/-- The classes keep all rules. -/
structure Consistent (d : Declared) (settings : Extraction) : Prop where
  /-- Every class with instances binds what its roles require. -/
  contracts : ∀ (name : String) (c : Classifier), d[name]? = some c → c.isInstantiable = true →
    d.KeepsContracts c
  /-- Every part belongs to one whole. -/
  unshared : ∀ whole whole' part, d.Owns settings whole part → d.Owns settings whole' part →
    whole = whole'
  /-- No whole is a part of itself, directly or not. -/
  acyclic : Acyclic (d.Owns settings)
  /-- No two relations of a class with an entity clash. -/
  unclashing : ∀ (name : String) (c : Classifier), d[name]? = some c → d.HasEntity settings name →
    c.relations.Pairwise fun r r' => ¬ d.ReferencesClash settings r r'

end Declared

namespace Instantiation

variable {r : Registry} {names : String → Prop} {i : Instantiation}

/-- The name of an entity is the one that it was made for. -/
theorem Populated.nameOf_eq_some_iff (h : Populated r names i) {name : String} {id : EntityId} :
    i.nameOf id = some name ↔ i.entityOf[name]? = some id := by
  rw [h.entityOf, nameOf, Option.map_eq_some_iff]

/-- A name has one entity, and an entity has one name. -/
theorem Populated.name_unique (h : Populated r names i) {name name' : String} {id : EntityId}
    (hname : i.entityOf[name]? = some id) (hname' : i.entityOf[name']? = some id) :
    name = name' :=
  Option.some.inj ((h.nameOf_eq_some_iff.mpr hname).symm.trans (h.nameOf_eq_some_iff.mpr hname'))

/-- Every name for which an entity has been made has one. -/
theorem Populated.exists_entity (h : Populated r names i) {name : String} (hname : names name) :
    ∃ id, i.entityOf[name]? = some id :=
  (Ordered.mem_iff_exists _ _).mp ((h.mem_entityOf name).mpr hname)

/-- Only the names for which entities have been made have one. -/
theorem Populated.names_of_entityOf (h : Populated r names i) {name : String} {id : EntityId}
    (hname : i.entityOf[name]? = some id) : names name :=
  (h.mem_entityOf name).mp (Ordered.mem_of_getElem? hname)

/-- The entity of a name is live. -/
theorem Populated.live (h : Populated r names i) {name : String} {id : EntityId}
    (hname : i.entityOf[name]? = some id) : id ∈ i.graph.entities := by
  obtain ⟨entity, hentity, -⟩ := (h.entityOf name id).mp hname
  exact Ordered.mem_of_getElem? hentity

/-- The links of the classes join live entities. -/
theorem Populated.live_of_mem_asked (h : Populated r names i) {classes : List Classifier} :
    ∀ p ∈ i.asked classes, p.2.source ∈ i.graph.entities ∧ p.2.target ∈ i.graph.entities := by
  rintro p hp
  have hl : p.2 ∈ classes.flatMap i.classLinks := by
    rw [← map_snd_asked]
    exact List.mem_map_of_mem hp
  obtain ⟨c, -, hl⟩ := List.mem_flatMap.mp hl
  obtain ⟨source, hsource, hl⟩ := mem_classLinks.mp hl
  obtain ⟨hs, name, ht⟩ := ends_of_mem_linksOf hl
  exact ⟨hs ▸ h.live hsource, h.live ht⟩

variable {d : Declared} {settings : Extraction}

/-- Whether members of a list stand in a relation is a question to those members that can. -/
theorem pairwise_not_iff_filter {R : Link → Link → Prop} (p : Link → Bool)
    (hp : ∀ l l', R l l' → p l = true ∧ p l' = true) {links : List Link} :
    links.Pairwise (fun l l' => ¬ R l l') ↔ (links.filter p).Pairwise fun l l' => ¬ R l l' := by
  rw [List.pairwise_filter]
  refine ⟨fun h => h.imp fun hl _ _ => hl, fun h => h.imp fun hl hr => ?_⟩
  exact hl (hp _ _ hr).1 (hp _ _ hr).2 hr

/-! ## Compositions -/

/-- A class asks for a composition exactly when it owns the class of the target. -/
theorem Populated.mem_classLinks_composition (h : Populated r (d.HasEntity settings) i)
    {c : Classifier} (hc : d[c.name]? = some c) {l : Link} :
    l ∈ i.classLinks c ∧ l.kind = .composition ↔ ∃ source target part,
      d.Owns settings c.name part ∧ i.entityOf[c.name]? = some source ∧
        i.entityOf[part]? = some target ∧ l = { source, target, kind := .composition } := by
  constructor
  · rintro ⟨hl, hkind⟩
    obtain ⟨source, hsource, hl⟩ := mem_classLinks.mp hl
    have hpart : l ∈ i.partLinks c source := by
      rw [← filter_composition_linksOf, List.mem_filter]
      exact ⟨hl, decide_eq_true hkind⟩
    obtain ⟨part, target, hpart, htarget, heq⟩ := mem_partLinks.mp hpart
    obtain ⟨hne, r, hr⟩ := Classifier.mem_targets.mp hpart
    exact ⟨source, target, part, ⟨hne.symm, h.names_of_entityOf hsource,
      h.names_of_entityOf htarget, c, hc, r, hr⟩, hsource, htarget, heq⟩
  · rintro ⟨source, target, part, ⟨hne, -, -, c', hc', r, hr⟩, hsource, htarget, heq⟩
    obtain rfl := Option.some.inj (hc.symm.trans hc')
    have hpart := Classifier.mem_targets.mpr ⟨hne.symm, r, hr⟩
    have hl := mem_partLinks.mpr ⟨part, target, hpart, htarget, heq⟩
    rw [← filter_composition_linksOf, List.mem_filter] at hl
    exact ⟨mem_classLinks.mpr ⟨source, hsource, hl.1⟩, of_decide_eq_true hl.2⟩

/-- The compositions that are asked for are those between a class and one that it owns. -/
theorem Populated.exists_composition_iff (h : Populated r (d.HasEntity settings) i)
    (hd : d.Named) {x y : EntityId} :
    (∃ l ∈ d.classes.flatMap i.classLinks,
        l.kind = .composition ∧ l.source = x ∧ l.target = y) ↔
      ∃ whole part, d.Owns settings whole part ∧ i.entityOf[whole]? = some x ∧
        i.entityOf[part]? = some y := by
  constructor
  · rintro ⟨l, hl, hkind, rfl, rfl⟩
    obtain ⟨c, hc, hl⟩ := List.mem_flatMap.mp hl
    obtain ⟨source, target, part, howns, hsource, htarget, rfl⟩ :=
      (h.mem_classLinks_composition (hd.mem_classes.mp hc)).mp ⟨hl, hkind⟩
    exact ⟨c.name, part, howns, hsource, htarget⟩
  · rintro ⟨whole, part, howns, hx, hy⟩
    obtain ⟨-, -, -, c, hc, -⟩ := id howns
    obtain rfl := hd hc
    obtain ⟨hl, hkind⟩ := (h.mem_classLinks_composition hc).mpr
      ⟨x, y, part, howns, hx, hy, rfl⟩
    exact ⟨_, List.mem_flatMap.mpr ⟨c, hd.mem_classes.mpr hc, hl⟩, hkind, rfl, rfl⟩

/-- The compositions between entities go round in a circle exactly when the classes do. -/
theorem Populated.acyclic_iff (h : Populated r (d.HasEntity settings) i) (hd : d.Named) :
    Acyclic (fun x y => ∃ l ∈ d.classes.flatMap i.classLinks,
        l.kind = .composition ∧ l.source = x ∧ l.target = y) ↔
      Acyclic (d.Owns settings) := by
  simp only [h.exists_composition_iff hd]
  constructor
  · -- A circle of names is one of their entities, and the other way round.
    refine fun hids => hids.of_map (fun name => i.entityOf[name]?.getD ⟨0⟩) ?_
    intro whole part howns
    obtain ⟨x, hx⟩ := h.exists_entity howns.2.1
    obtain ⟨y, hy⟩ := h.exists_entity howns.2.2.1
    refine ⟨whole, part, howns, ?_, ?_⟩
    · rw [hx, Option.getD_some]
    · rw [hy, Option.getD_some]
  · refine fun hnames => hnames.of_map (fun id => (i.nameOf id).getD "") ?_
    rintro x y ⟨whole, part, howns, hx, hy⟩
    rw [h.nameOf_eq_some_iff.mpr hx, h.nameOf_eq_some_iff.mpr hy]
    exact howns

/-- Links to different names have different targets. -/
theorem Populated.pairwise_target (h : Populated r names i) {others : List String}
    (hothers : others.Nodup) {link : EntityId → Link} (hlink : ∀ id, (link id).target = id) :
    (others.filterMap fun name => i.entityOf[name]?.map link).Pairwise
      fun l l' => l.target ≠ l'.target := by
  rw [List.pairwise_filterMap]
  refine hothers.imp fun {a b} hne l hl l' hl' heq => hne ?_
  obtain ⟨target, htarget, rfl⟩ := Option.map_eq_some_iff.mp hl
  obtain ⟨target', htarget', rfl⟩ := Option.map_eq_some_iff.mp hl'
  rw [hlink, hlink] at heq
  exact h.name_unique htarget (heq ▸ htarget')

/-- No class asks for a part twice. -/
theorem Populated.unshared_classLinks (h : Populated r names i) (c : Classifier) :
    (i.classLinks c).Pairwise fun l l' => ¬ l.SharePart l' := by
  unfold classLinks
  cases i.entityOf[c.name]? with
  | none => exact .nil
  | some source =>
    rw [Option.elim_some, pairwise_not_iff_filter (fun l => decide (l.kind = .composition))
      fun _ _ hshare => ⟨decide_eq_true hshare.1, decide_eq_true hshare.2.1⟩,
      filter_composition_linksOf]
    exact (h.pairwise_target (Classifier.nodup_targets c _) fun _ => rfl).imp
      fun hne hshare => hne hshare.2.2

/-- No part is asked for twice exactly when every part belongs to one whole. -/
theorem Populated.unshared_iff (h : Populated r (d.HasEntity settings) i) (hd : d.Named) :
    (d.classes.flatMap i.classLinks).Pairwise (fun l l' => ¬ l.SharePart l') ↔
      ∀ whole whole' part, d.Owns settings whole part → d.Owns settings whole' part →
        whole = whole' := by
  rw [List.pairwise_flatMap]
  constructor
  · rintro ⟨-, hacross⟩ whole whole' part howns howns'
    obtain ⟨-, hwhole, hpart, c, hc, -⟩ := id howns
    obtain ⟨-, hwhole', -, c', hc', -⟩ := id howns'
    obtain ⟨x, hx⟩ := h.exists_entity hwhole
    obtain ⟨x', hx'⟩ := h.exists_entity hwhole'
    obtain ⟨y, hy⟩ := h.exists_entity hpart
    obtain rfl := hd hc
    obtain rfl := hd hc'
    obtain ⟨hl, hkind⟩ := (h.mem_classLinks_composition hc).mpr ⟨x, y, part, howns, hx, hy, rfl⟩
    obtain ⟨hl', hkind'⟩ :=
      (h.mem_classLinks_composition hc').mpr ⟨x', y, part, howns', hx', hy, rfl⟩
    -- Two classes with one part both ask for it.
    by_contra hne
    have hsymm : Std.Symm fun c c' => ∀ l ∈ i.classLinks c, ∀ l' ∈ i.classLinks c',
        ¬ l.SharePart l' :=
      ⟨fun _ _ hcc l hl l' hl' hshare => hcc l' hl' l hl ⟨hshare.2.1, hshare.1, hshare.2.2.symm⟩⟩
    exact hacross.forall (hd.mem_classes.mpr hc) (hd.mem_classes.mpr hc')
      (fun heq => hne (congrArg _ heq)) _ hl _ hl' ⟨hkind, hkind', rfl⟩
  · intro hunique
    refine ⟨fun c _ => h.unshared_classLinks c, ?_⟩
    · refine hd.pairwise_classes.imp_of_mem fun {c c'} hc hc' hne l hl l' hl' hshare => hne ?_
      obtain ⟨source, target, part, howns, -, htarget, rfl⟩ :=
        (h.mem_classLinks_composition (hd.mem_classes.mp hc)).mp ⟨hl, hshare.1⟩
      obtain ⟨source', target', part', howns', -, htarget', rfl⟩ :=
        (h.mem_classLinks_composition (hd.mem_classes.mp hc')).mp ⟨hl', hshare.2.1⟩
      obtain rfl : target = target' := hshare.2.2
      obtain rfl := h.name_unique htarget htarget'
      exact hunique _ _ _ howns howns'

/-! ## Associations -/

/-- The links of a class clash exactly when two of its relations do. -/
theorem Populated.unclashing_linksOf_iff (h : Populated r (d.HasEntity settings) i)
    {c : Classifier} {source : EntityId} :
    (i.linksOf c source).Pairwise (fun l l' => ¬ l.Clashes l') ↔
      c.relations.Pairwise fun r r' => ¬ d.ReferencesClash settings r r' := by
  have hp : ∀ l l' : Link, l.Clashes l' →
      decide (l.kind = .association) = true ∧ decide (l'.kind = .association) = true :=
    fun l l' hclash => ⟨decide_eq_true hclash.1, decide_eq_true hclash.2.1⟩
  rw [pairwise_not_iff_filter _ hp, filter_association_linksOf, ← pairwise_not_iff_filter _ hp,
    referenceLinks, List.pairwise_filterMap, List.pairwise_filter]
  refine List.Pairwise.iff fun r r' => ?_
  constructor
  · rintro hlinks ⟨hkind, hkind', htarget, htarget', hvia, hone⟩
    obtain ⟨y, hy⟩ := h.exists_entity htarget
    obtain ⟨y', hy'⟩ := h.exists_entity htarget'
    exact hlinks (by simp [hkind]) (by simp [hkind']) _ (referenceLink_eq_some_iff.mpr ⟨y, hy, rfl⟩)
      _ (referenceLink_eq_some_iff.mpr ⟨y', hy', rfl⟩) ⟨hkind, hkind', rfl, hvia, hone⟩
  · intro hrelations _ _ l hl l' hl' hclash
    obtain ⟨y, hy, rfl⟩ := referenceLink_eq_some_iff.mp hl
    obtain ⟨y', hy', rfl⟩ := referenceLink_eq_some_iff.mp hl'
    obtain ⟨hkind, hkind', -, hvia, hone⟩ := hclash
    exact hrelations ⟨hkind, hkind', h.names_of_entityOf hy, h.names_of_entityOf hy', hvia, hone⟩

/-- No two links of the classes clash exactly when no two relations of a class do. -/
theorem Populated.unclashing_iff (h : Populated r (d.HasEntity settings) i) (hd : d.Named) :
    (d.classes.flatMap i.classLinks).Pairwise (fun l l' => ¬ l.Clashes l') ↔
      ∀ (name : String) (c : Classifier), d[name]? = some c → d.HasEntity settings name →
        c.relations.Pairwise fun r r' => ¬ d.ReferencesClash settings r r' := by
  rw [List.pairwise_flatMap]
  constructor
  · rintro ⟨hwithin, -⟩ name c hc hentity
    obtain rfl := hd hc
    obtain ⟨source, hsource⟩ := h.exists_entity hentity
    have hlinks := hwithin c (hd.mem_classes.mpr hc)
    rw [classLinks, hsource, Option.elim_some] at hlinks
    exact h.unclashing_linksOf_iff.mp hlinks
  · intro hrelations
    refine ⟨fun c hc => ?_, ?_⟩
    · unfold classLinks
      cases hsource : i.entityOf[c.name]? with
      | none => exact .nil
      | some source =>
        exact h.unclashing_linksOf_iff.mpr
          (hrelations c.name c (hd.mem_classes.mp hc) (h.names_of_entityOf hsource))
    · -- Links of different classes have different sources.
      refine hd.pairwise_classes.imp fun {c c'} hne l hl l' hl' hclash => hne ?_
      obtain ⟨source, hsource, hl⟩ := mem_classLinks.mp hl
      obtain ⟨source', hsource', hl'⟩ := mem_classLinks.mp hl'
      have heq : source = source' := by
        rw [← (ends_of_mem_linksOf hl).1, ← (ends_of_mem_linksOf hl').1]
        exact hclash.2.2.1
      exact h.name_unique hsource (heq ▸ hsource')

end Instantiation

/-! ## The main result -/

/-- An instantiation makes an entity for each class with instances and each outside name that is
included, and it has no issues exactly when the classes, of each name the last, keep all rules. -/
theorem instantiate_issues_eq_nil_iff {settings : Extraction} {classes : List Classifier}
    {i : Instantiation} (h : instantiate settings classes = .ok i) :
    let d := Declared.ofList classes
    (∀ name : String, d[name]? = classes.reverse.find? fun c => c.name = name) ∧
    (∀ name : String, name ∈ i.entityOf ↔ d.HasEntity settings name) ∧
    (i.issues = [] ↔ d.Consistent settings) := by
  intro d
  have hd : d.Named := Declared.named_ofList classes
  obtain ⟨r, hr, rfl⟩ := instantiate_eq_ok_iff.mp h
  have hmade := (hd.made_spec hr).2
  rw [Instantiation.foldl_addLinks_eq d.classes (i := d.made settings r) rfl]
  refine ⟨Declared.getElem?_ofList classes, fun name => ?_, ?_⟩
  · rw [Instantiation.entityOf_foldl_addLink]
    exact hmade.mem_entityOf name
  · rw [Instantiation.issues_foldl_addLink _ hmade.wellFormed hmade.live_of_mem_asked,
      hd.issues_made_iff hr, Instantiation.map_snd_asked,
      EntityGraph.admits_iff_of_edges_eq_empty hmade.edges,
      hmade.unshared_iff hd, hmade.acyclic_iff hd, hmade.unclashing_iff hd]
    constructor
    · rintro ⟨hcontracts, hunshared, hacyclic, hunclashing⟩
      exact ⟨fun name c hc => hcontracts c ((hd hc).symm ▸ hc), hunshared, hacyclic, hunclashing⟩
    · exact fun hd => ⟨fun c => hd.contracts c.name c, hd.unshared, hd.acyclic, hd.unclashing⟩

/-- A car and a cart that both own the same wheel. -/
def sharedWheel : List Classifier :=
  let wheel : Relation := { kind := .composition, target := "Wheel" }
  [{ name := "Car", kind := .plain, relations := [wheel] },
    { name := "Cart", kind := .plain, relations := [wheel] },
    { name := "Wheel", kind := .plain }]

/-- A part with two owners is an issue of the second, and breaks a rule. -/
theorem not_consistent_sharedWheel :
    ∃ i, instantiate {} sharedWheel = .ok i ∧
      i.issues = [⟨"Cart", .ownershipConflict ⟨3⟩ ⟨1⟩⟩] ∧
      ¬ (Declared.ofList sharedWheel).Consistent {} := by
  refine ⟨_, rfl, by decide, ?_⟩
  rw [← (instantiate_issues_eq_nil_iff rfl).2.2]
  decide

end ClassGraph
