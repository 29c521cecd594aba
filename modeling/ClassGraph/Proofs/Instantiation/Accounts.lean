import Mathlib.Data.List.Dedup
import ClassGraph.Proofs.Instantiation.Verdicts

/-!
# What becomes of the relations of a class

A class with an entity asks for one link to each part, one for each reference, and one to each class
that it depends on and has no other relation to (`Asks`, `linkCount`). An instantiation loses none
of these links and makes up no other: the edges that leave the entity are the links that were
granted, the issues of the class about links are those that were refused, and together they are all
that the class asks for (`Accounts`). `instantiate_accounts` is the main result.
-/

namespace ClassGraph

namespace Instantiation

/-! ## What a class asks for -/

/-- A relation of a class with the entity `source` asks for a link. -/
inductive Asks (i : Instantiation) (c : Classifier) (source : EntityId) (r : Relation) :
    Link → Prop
  /-- A composition of another class asks for a composition. -/
  | part {target : EntityId} : r.kind = .composition → r.target ≠ c.name →
    i.entityOf[r.target]? = some target → Asks i c source r { source, target, kind := .composition }
  /-- A reference asks for a link of its kind, labelled with its member and with its
  multiplicity. -/
  | reference {target : EntityId} : r.kind = .aggregation ∨ r.kind = .association →
    i.entityOf[r.target]? = some target →
    Asks i c source r
      { source, target, kind := r.kind, label := r.via, cardinality := r.cardinality }
  /-- A dependency on another class asks for a dependency when the class has dependencies on it
  only. -/
  | use {target : EntityId} : r.kind = .dependency → r.target ≠ c.name →
    (∀ r' ∈ c.relations, r'.target = r.target → r'.kind = .dependency) →
    i.entityOf[r.target]? = some target → Asks i c source r { source, target, kind := .dependency }

/-- A relation that asks for a composition, if its target has an entity. -/
def isPart (c : Classifier) (r : Relation) : Bool := r.kind = .composition ∧ r.target ≠ c.name

/-- A relation that asks for a link of its own, if its target has an entity. -/
def isReference (r : Relation) : Bool := r.kind == .aggregation || r.kind == .association

/-- A relation that asks for a dependency, if its target has an entity. -/
def isUse (c : Classifier) (r : Relation) : Bool :=
  r.kind = .dependency ∧ r.target ≠ c.name ∧
    ∀ r' ∈ c.relations, r'.target = r.target → r'.kind = .dependency

/-- The names with entities to which relations of a class lead that pass a test, each once. -/
def targetNames (i : Instantiation) (c : Classifier) (p : Relation → Bool) : List String :=
  ((c.relations.filter fun r => p r ∧ r.target ∈ i.entityOf).map (·.target)).dedup

/-- The number of links that a class asks for: one for each part, one for each reference to a class
with an entity, and one for each class that it depends on only. -/
def linkCount (i : Instantiation) (c : Classifier) : Nat :=
  (i.targetNames c (isPart c)).length +
    c.relations.countP (fun r => isReference r ∧ r.target ∈ i.entityOf) +
    (i.targetNames c (isUse c)).length

variable {i : Instantiation} {c : Classifier} {source : EntityId} {l : Link}

/-- The links of a class are those that a relation of it asks for. -/
theorem mem_linksOf_iff : l ∈ i.linksOf c source ↔ ∃ r ∈ c.relations, i.Asks c source r l := by
  -- The parts, the references and the uses are each the links that one constructor speaks of.
  rw [linksOf_eq, List.mem_append, List.mem_append, or_assoc, mem_partLinks, mem_referenceLinks,
    mem_useLinks]
  constructor
  · rintro (⟨name, target, hname, htarget, rfl⟩ | ⟨r, hr, hkind, hl⟩ |
      ⟨name, target, hname, htarget, rfl⟩)
    · obtain ⟨hne, r, hr, hkind, rfl⟩ := Classifier.mem_targets.mp hname
      exact ⟨r, hr, .part hkind hne htarget⟩
    · obtain ⟨target, htarget, rfl⟩ := referenceLink_eq_some_iff.mp hl
      exact ⟨r, hr, .reference hkind htarget⟩
    · obtain ⟨hne, ⟨r, hr, hkind, rfl⟩, honly⟩ := Classifier.mem_uncoveredDependencies.mp hname
      exact ⟨r, hr, .use hkind hne honly htarget⟩
  · rintro ⟨r, hr, hasks⟩
    cases hasks with
    | part hkind hne htarget =>
      exact .inl ⟨_, _, Classifier.mem_targets.mpr ⟨hne, r, hr, hkind, rfl⟩, htarget, rfl⟩
    | reference hkind htarget =>
      exact .inr (.inl ⟨r, hr, hkind, referenceLink_eq_some_iff.mpr ⟨_, htarget, rfl⟩⟩)
    | use hkind hne honly htarget =>
      exact .inr (.inr ⟨_, _,
        Classifier.mem_uncoveredDependencies.mpr ⟨hne, ⟨r, hr, hkind, rfl⟩, honly⟩, htarget, rfl⟩)

/-- What a relation asks for depends on the entities of the names only. -/
theorem Asks.congr {i' : Instantiation} (hentity : i'.entityOf = i.entityOf) {r : Relation}
    (h : i.Asks c source r l) : i'.Asks c source r l := by
  cases h with
  | part hkind hne htarget => exact .part hkind hne (hentity ▸ htarget)
  | reference hkind htarget => exact .reference hkind (hentity ▸ htarget)
  | use hkind hne honly htarget => exact .use hkind hne honly (hentity ▸ htarget)

/-- What classes ask for is asked for by a relation of the class of the name. -/
theorem exists_asks_of_mem_asked {classes : List Classifier} {name : String}
    (h : (name, l) ∈ i.asked classes) : ∃ c ∈ classes, c.name = name ∧
      i.entityOf[c.name]? = some l.source ∧ ∃ r ∈ c.relations, i.Asks c l.source r l := by
  obtain ⟨c, hc, hname, hl⟩ := mem_asked.mp h
  obtain ⟨source, hsource, hl⟩ := mem_classLinks.mp hl
  obtain rfl : l.source = source := (ends_of_mem_linksOf hl).1
  exact ⟨c, hc, hname, hsource, mem_linksOf_iff.mp hl⟩

/-- A name gives a link just when it has an entity. -/
theorem isSome_map_entityOf (i : Instantiation) (name : String) (link : EntityId → Link) :
    (i.entityOf[name]?.map link).isSome = decide (name ∈ i.entityOf) := by
  rw [Option.isSome_map, Bool.eq_iff_iff, decide_eq_true_iff,
    Std.ExtTreeMap.mem_iff_isSome_getElem?]

/-- Where names are the targets of the relations that pass a test, each once, there are as many
links to their entities as there are such targets with an entity. -/
theorem length_filterMap_entityOf {names : List String} (hnames : names.Nodup)
    {p : Relation → Bool}
    (h : ∀ name, name ∈ names ↔ ∃ r ∈ c.relations, p r = true ∧ r.target = name)
    (link : EntityId → Link) :
    (names.filterMap fun name => i.entityOf[name]?.map link).length =
      (i.targetNames c p).length := by
  have hfilter : (names.filter (· ∈ i.entityOf)).Perm (i.targetNames c p) := by
    -- Neither list has a name twice, so that it is enough that their members are the same.
    unfold targetNames
    rw [List.perm_ext_iff_of_nodup (hnames.filter _) (List.nodup_dedup _)]
    intro name
    simp only [List.mem_filter, h, List.mem_dedup, List.mem_map, decide_eq_true_eq]
    constructor
    · rintro ⟨⟨r, hr, hp, rfl⟩, hentity⟩
      exact ⟨r, ⟨hr, hp, hentity⟩, rfl⟩
    · rintro ⟨r, ⟨hr, hp, hentity⟩, rfl⟩
      exact ⟨⟨r, hr, hp, rfl⟩, hentity⟩
  rw [← hfilter.length_eq, List.length_filterMap_eq_countP, List.countP_eq_length_filter]
  simp only [isSome_map_entityOf]

/-- There is one composition for each target of a composition that has an entity. -/
theorem length_partLinks (i : Instantiation) (c : Classifier) (source : EntityId) :
    (i.partLinks c source).length = (i.targetNames c (isPart c)).length := by
  refine length_filterMap_entityOf (Classifier.nodup_targets c _) (fun name => ?_) _
  simp only [Classifier.mem_targets, isPart, decide_eq_true_eq]
  constructor
  · rintro ⟨hne, r, hr, hkind, rfl⟩
    exact ⟨r, hr, ⟨hkind, hne⟩, rfl⟩
  · rintro ⟨r, hr, ⟨hkind, hne⟩, rfl⟩
    exact ⟨hne, r, hr, hkind, rfl⟩

/-- There is one link for each aggregation and association with a target that has an entity. -/
theorem length_referenceLinks (i : Instantiation) (c : Classifier) (source : EntityId) :
    (i.referenceLinks c source).length =
      c.relations.countP fun r => isReference r ∧ r.target ∈ i.entityOf := by
  rw [referenceLinks, List.length_filterMap_eq_countP, List.countP_filter]
  refine List.countP_congr fun r _ => ?_
  rw [referenceLink, isSome_map_entityOf, Bool.and_eq_true, decide_eq_true_iff, decide_eq_true_iff,
    and_comm]
  rfl

/-- There is one dependency for each name that only methods use and that has an entity. -/
theorem length_useLinks (i : Instantiation) (c : Classifier) (source : EntityId) :
    (i.useLinks c source).length = (i.targetNames c (isUse c)).length := by
  refine length_filterMap_entityOf (Classifier.nodup_uncoveredDependencies c) (fun name => ?_) _
  simp only [Classifier.mem_uncoveredDependencies, isUse, decide_eq_true_eq]
  constructor
  · rintro ⟨hne, ⟨r, hr, hkind, rfl⟩, honly⟩
    exact ⟨r, hr, ⟨hkind, hne, honly⟩, rfl⟩
  · rintro ⟨r, hr, ⟨hkind, hne, honly⟩, rfl⟩
    exact ⟨hne, ⟨r, hr, hkind, rfl⟩, honly⟩

/-- A class asks for as many links as are counted for it. -/
theorem length_linksOf (i : Instantiation) (c : Classifier) (source : EntityId) :
    (i.linksOf c source).length = i.linkCount c := by
  rw [linksOf_eq, List.length_append, List.length_append, length_partLinks, length_referenceLinks,
    length_useLinks, linkCount]

/-- A class asks once for each part and for each class that it depends on only. -/
theorem Populated.nodup_filter_linksOf {r : Registry} {names : String → Prop}
    (h : Populated r names i) (c : Classifier) (source : EntityId) {kind : RelationKind}
    (hkind : kind = .composition ∨ kind = .dependency) :
    ((i.linksOf c source).filter fun l => l.kind = kind).Nodup := by
  have hnodup : ∀ {others : List String} {link : EntityId → Link}, others.Nodup →
      (∀ id, (link id).target = id) →
        (others.filterMap fun name => i.entityOf[name]?.map link).Nodup :=
    fun hothers hlink => (h.pairwise_target hothers hlink).imp fun hne => ne_of_apply_ne _ hne
  rcases hkind with rfl | rfl
  · rw [filter_composition_linksOf]
    exact hnodup (Classifier.nodup_targets c _) fun _ => rfl
  · rw [filter_dependency_linksOf]
    exact hnodup (Classifier.nodup_uncoveredDependencies c) fun _ => rfl

/-! ## The account of a class -/

/-- The issues of a class about links. -/
def linkIssues (i : Instantiation) (className : String) : List Issue :=
  i.issues.filter fun x => x.className = className ∧ x.error.concernsLink

/-- The verdicts on the links that a class with the entity `source` asks for. -/
structure Accounts (i : Instantiation) (c : Classifier) (source : EntityId)
    (verdicts : List Verdict) : Prop where
  /-- There are verdicts on the links that a relation of the class asks for, and on no others. -/
  asked : ∀ l, l ∈ verdicts.map (·.link) ↔ ∃ r ∈ c.relations, i.Asks c source r l
  /-- There is one verdict for each reference, in the order of the references. -/
  references :
    (verdicts.map (·.link)).filter (fun l => l.kind = .aggregation ∨ l.kind = .association) =
      (c.relations.filter isReference).filterMap (i.referenceLink source)
  /-- There is one verdict on each part, and one on each class that the class depends on only. -/
  once : ∀ kind, kind = .composition ∨ kind = .dependency →
    ((verdicts.map (·.link)).filter fun l => l.kind = kind).Nodup
  /-- There are as many verdicts as links that the class asks for. -/
  count : verdicts.length = i.linkCount c
  /-- The edges that leave the entity of the class are the granted links. -/
  edges : (i.graph.allEdges.filter fun e => e.source = source) = verdicts.filterMap Verdict.edge?
  /-- The issues of the class about links are the refused links. -/
  issues : i.linkIssues c.name = verdicts.filterMap Verdict.issue?
  /-- The graph shows why a link was refused. -/
  obstructs : ∀ v ∈ verdicts, ∀ error, v.result = .error error → i.graph.Obstructs v.link error

/-- Of the images under a partial map, those that pass a filter are the images of the members that
do. -/
theorem filter_filterMap_of_mem {α β : Type} {f : α → Option β} {p : β → Bool} {q : α → Bool}
    {l : List α} (h : ∀ a ∈ l, ∀ b, f a = some b → p b = q a) :
    (l.filterMap f).filter p = (l.filter q).filterMap f := by
  rw [List.filter_filterMap, List.filterMap_filter]
  refine List.filterMap_congr fun a ha => ?_
  cases hf : f a with
  | none => simp
  | some b => simp [Option.filter, h a ha b hf]

section

variable {classes : List Classifier} {made : Instantiation} {all : List Verdict}
  (hall : all.map (fun v => (v.className, v.link)) = made.asked classes)

include hall

/-- The verdicts with the name of a class are those on its links. -/
theorem map_link_filter (hnames : classes.Pairwise fun c c' => c.name ≠ c'.name) (hc : c ∈ classes)
    (hsource : made.entityOf[c.name]? = some source) :
    (all.filter fun v => v.className = c.name).map (·.link) = made.linksOf c source := by
  have hclass : made.classLinks c = made.linksOf c source := by
    rw [classLinks, hsource, Option.elim_some]
  have hasked := filter_asked made hnames hc
  rw [← hall, List.filter_map, hclass] at hasked
  simpa [Function.comp_def] using congrArg (List.map Prod.snd) hasked

/-- Each verdict is about a relation of a class, which asks for its link. -/
theorem exists_asks_of_mem {v : Verdict} (hv : v ∈ all) : ∃ c ∈ classes, c.name = v.className ∧
    made.entityOf[c.name]? = some v.link.source ∧
      ∃ r ∈ c.relations, made.Asks c v.link.source r v.link :=
  exists_asks_of_mem_asked (hall ▸ List.mem_map_of_mem hv)

/-- The verdicts with the name of a class are those on links that leave its entity. -/
theorem source_eq_iff {r : Registry} {names : String → Prop} (h : made.Populated r names)
    (hsource : made.entityOf[c.name]? = some source) {v : Verdict} (hv : v ∈ all) :
    v.link.source = source ↔ v.className = c.name := by
  obtain ⟨c', -, hname, hsource', -⟩ := exists_asks_of_mem hall hv
  -- The link leaves the entity of the class that asks for it, and no two names share an entity.
  rw [← hname]
  refine ⟨fun heq => h.name_unique hsource' (heq ▸ hsource), fun heq => ?_⟩
  rw [heq, hsource] at hsource'
  exact (Option.some.inj hsource').symm

end

variable {settings : Extraction} {classes : List Classifier}

/-- There is an account of each class that has an entity. -/
theorem exists_accounts (h : instantiate settings classes = .ok i)
    (hc : (Declared.ofList classes)[c.name]? = some c)
    (hsource : i.entityOf[c.name]? = some source) :
    ∃ verdicts, i.Accounts c source verdicts := by
  have hd : (Declared.ofList classes).Named := Declared.named_ofList classes
  obtain ⟨r, all, hr, hadds, hall⟩ := exists_adds_of_instantiate h
  obtain ⟨hissues, hmade⟩ := hd.made_spec hr
  -- The entities are all made before the first link, so that what the class asks for is settled.
  rw [hadds.entityOf] at hsource
  have hlinks : i.linksOf = _ := linksOf_congr hadds.entityOf
  have hown := map_link_filter hall hd.pairwise_classes (hd.mem_classes.mpr hc) hsource
  rw [← hlinks] at hown
  refine ⟨all.filter fun v => v.className = c.name, {
    asked := fun l => by rw [hown, mem_linksOf_iff]
    references := by
      rw [hown, filter_reference_linksOf]
      rfl
    once := fun kind hkind => by
      rw [hown, hlinks]
      exact hmade.nodup_filter_linksOf c source hkind
    count := by rw [← List.length_map (·.link), hown, length_linksOf]
    edges := ?_
    issues := ?_
    obstructs := fun v hv => hadds.obstructs v (List.mem_of_mem_filter hv) }⟩
  · -- There were no edges before, and the source of an edge tells the class that asked for it.
    rw [hadds.allEdges, hmade.allEdges_eq_nil, List.nil_append]
    refine filter_filterMap_of_mem fun v hv e he => ?_
    rw [(Verdict.edge?_eq_some_iff.mp he).2, decide_eq_decide]
    exact source_eq_iff hall hmade hsource hv
  · -- The issues before the first link are violations of roles, and all others are about links.
    rw [linkIssues, hadds.issues, List.filter_append, List.filter_eq_nil_iff.mpr, List.nil_append]
    · refine filter_filterMap_of_mem fun v hv x hx => ?_
      obtain ⟨hresult, hname⟩ := Verdict.issue?_eq_some_iff.mp hx
      rw [hname, (hadds.obstructs v hv x.error hresult).concernsLink, decide_eq_decide]
      exact and_iff_left rfl
    · intro x hx
      rw [hissues, List.mem_filterMap] at hx
      obtain ⟨_, -, hx⟩ := hx
      simp [not_concernsLink_of_violation hx]

/-- Every edge comes from a relation of the class that the entity at its start was made for. -/
theorem exists_asks_of_edge (h : instantiate settings classes = .ok i) {x : EdgeId} {e : Edge}
    (he : i.graph.edges[x]? = some e) :
    ∃ c, (Declared.ofList classes)[c.name]? = some c ∧ i.entityOf[c.name]? = some e.source ∧
      ∃ r ∈ c.relations, i.Asks c e.source r e.toLink := by
  have hd : (Declared.ofList classes).Named := Declared.named_ofList classes
  obtain ⟨r, all, hr, hadds, hall⟩ := exists_adds_of_instantiate h
  have hmade := (hd.made_spec hr).2
  have hmem := EntityGraph.mem_allEdges.mpr ⟨x, he⟩
  rw [hadds.allEdges, hmade.allEdges_eq_nil, List.nil_append, List.mem_filterMap] at hmem
  obtain ⟨v, hv, hedge⟩ := hmem
  obtain ⟨c, hc, -, hsource, r, hr, hasks⟩ := exists_asks_of_mem hall hv
  rw [← (Verdict.edge?_eq_some_iff.mp hedge).2] at hsource hasks
  exact ⟨c, hd.mem_classes.mp hc, hadds.entityOf ▸ hsource, r, hr, hasks.congr hadds.entityOf⟩

variable {verdicts : List Verdict}

/-- A link that a relation asks for is an edge, or an issue that names the reason. -/
theorem Accounts.edge_or_issue (h : i.Accounts c source verdicts) {r : Relation}
    (hr : r ∈ c.relations) (hasks : i.Asks c source r l) :
    (∃ e ∈ i.graph.allEdges, e.toLink = l) ∨
      ∃ error, ⟨c.name, error⟩ ∈ i.issues ∧ i.graph.Obstructs l error := by
  obtain ⟨v, hv, rfl⟩ := List.mem_map.mp ((h.asked l).mpr ⟨r, hr, hasks⟩)
  cases hresult : v.result with
  | ok id =>
    have he : { toLink := v.link, id : Edge } ∈ verdicts.filterMap Verdict.edge? :=
      List.mem_filterMap.mpr ⟨v, hv, Verdict.edge?_of_ok hresult⟩
    rw [← h.edges] at he
    exact .inl ⟨_, List.mem_of_mem_filter he, rfl⟩
  | error error =>
    have hx : (⟨v.className, error⟩ : Issue) ∈ verdicts.filterMap Verdict.issue? :=
      List.mem_filterMap.mpr ⟨v, hv, Verdict.issue?_of_error hresult⟩
    rw [← h.issues, linkIssues, List.mem_filter] at hx
    obtain ⟨hname, -⟩ := of_decide_eq_true hx.2
    exact .inr ⟨error, hname ▸ hx.1, h.obstructs v hv error hresult⟩

/-- The edges that leave the entity and the issues about links are all that the class asks for. -/
theorem Accounts.length_edges_add_length_issues (h : i.Accounts c source verdicts) :
    (i.graph.allEdges.filter fun e => e.source = source).length + (i.linkIssues c.name).length =
      i.linkCount c := by
  rw [h.edges, h.issues, Verdict.length_edges_add_length_issues, h.count]

/-- Aggregations and dependencies are never refused. -/
theorem Asks.kind_of_obstructs {r : Relation} (h : i.Asks c source r l) {g : EntityGraph}
    {error : GraphError} (hobstructs : g.Obstructs l error) :
    r.kind = .composition ∨ r.kind = .association := by
  -- A link has the kind of the relation, and only two kinds have rules.
  have hkind : l.kind = r.kind := by
    cases h with
    | part hkind => exact hkind.symm
    | reference => rfl
    | use hkind => exact hkind.symm
  rw [← hkind]
  cases hobstructs with
  | ownershipConflict hkind => exact .inl hkind
  | cycle hkind => exact .inl hkind
  | cardinality hkind => exact .inr hkind

end Instantiation

/-! ## The main result -/

/-- An instantiation accounts for the relations of the classes, of each name the last, that have
entities: each link that one of them asks for is an edge, or else an issue that names why it cannot
be one, and there is no other edge. -/
theorem instantiate_accounts {settings : Extraction} {classes : List Classifier}
    {i : Instantiation} (h : instantiate settings classes = .ok i) :
    let d := Declared.ofList classes
    (∀ name : String, d[name]? = classes.reverse.find? fun c => c.name = name) ∧
    (∀ name : String, name ∈ i.entityOf ↔ d.HasEntity settings name) ∧
    (∀ (name : String) (id : EntityId), i.entityOf[name]? = some id ↔
      ∃ entity, i.graph.entities[id]? = some entity ∧ entity.typeTag = name) ∧
    (∀ (c : Classifier) (source : EntityId), d[c.name]? = some c →
      i.entityOf[c.name]? = some source →
        (∀ r ∈ c.relations, ∀ l, i.Asks c source r l →
          (∃ e ∈ i.graph.allEdges, e.toLink = l) ∨
            (r.kind = .composition ∨ r.kind = .association) ∧
              ∃ error, ⟨c.name, error⟩ ∈ i.issues ∧ i.graph.Obstructs l error) ∧
        (i.graph.edgesFrom source = i.graph.allEdges.filter fun e => e.source = source) ∧
        (i.graph.edgesFrom source).length + (i.linkIssues c.name).length = i.linkCount c ∧
        ∃ verdicts, i.Accounts c source verdicts) ∧
    (∀ e ∈ i.graph.allEdges, ∃ c, d[c.name]? = some c ∧ i.entityOf[c.name]? = some e.source ∧
      ∃ r ∈ c.relations, i.Asks c e.source r e.toLink) := by
  intro d
  have hd : d.Named := Declared.named_ofList classes
  obtain ⟨r, all, hr, hadds, -⟩ := Instantiation.exists_adds_of_instantiate h
  have hmade := (hd.made_spec hr).2
  refine ⟨Declared.getElem?_ofList classes, fun name => ?_, fun name id => ?_, ?_, ?_⟩
  · rw [hadds.entityOf]
    exact hmade.mem_entityOf name
  · rw [hadds.entityOf, hadds.entities]
    exact hmade.entityOf name id
  · intro c source hc hsource
    obtain ⟨verdicts, haccounts⟩ := Instantiation.exists_accounts h hc hsource
    have hedges := hadds.wellFormed.edgesFrom_eq_filter source
    refine ⟨fun r hr l hasks => ?_, hedges, ?_, verdicts, haccounts⟩
    · refine (haccounts.edge_or_issue hr hasks).imp_right ?_
      rintro ⟨error, hissue, hobstructs⟩
      exact ⟨hasks.kind_of_obstructs hobstructs, error, hissue, hobstructs⟩
    · rw [hedges]
      exact haccounts.length_edges_add_length_issues
  · intro e he
    obtain ⟨x, hx⟩ := EntityGraph.mem_allEdges.mp he
    exact Instantiation.exists_asks_of_edge h hx

/-- A car with two wheels, two drivers of one reference, a reference to its like, and a map that is
declared nowhere. -/
def ferriedCar : Classifier where
  name := "Car"
  kind := .plain
  relations := [
    { kind := .composition, target := "Wheel", via := some "front" },
    { kind := .composition, target := "Wheel", via := some "rear" },
    { kind := .association, target := "Driver", via := some "driver", cardinality := some .one },
    { kind := .association, target := "Wheel", via := some "driver" },
    { kind := .aggregation, target := "Car", via := some "next" },
    { kind := .dependency, target := "Wheel" },
    { kind := .dependency, target := "Map" }]

/-- The car, declared twice, and a ferry that owns its wheels as well. -/
def ferry : List Classifier :=
  [{ name := "Car", kind := .plain, relations := [{ kind := .composition, target := "Driver" }] },
    { name := "Ferry", kind := .plain,
      relations := [{ kind := .composition, target := "Car" },
        { kind := .composition, target := "Wheel" }] },
    { name := "Wheel", kind := .plain }, { name := "Driver", kind := .plain }, ferriedCar]

/-- Of the five links that the car asks for one is refused, and the wheels of the ferry are as
well. -/
theorem accounts_ferry : ∃ i, instantiate { includeExternal := true } ferry = .ok i ∧
    i.issues = [⟨"Car", .cardinality ⟨1⟩ (some "driver")⟩, ⟨"Ferry", .ownershipConflict ⟨4⟩ ⟨1⟩⟩] ∧
    i.linkCount ferriedCar = 5 ∧
    (i.graph.edgesFrom ⟨1⟩).length + (i.linkIssues "Car").length = 5 ∧
    ∃ verdicts, i.Accounts ferriedCar ⟨1⟩ verdicts := by
  refine ⟨_, rfl, by decide, by decide, ?_⟩
  obtain ⟨-, -, -, haccounts, -⟩ :=
    instantiate_accounts (show instantiate { includeExternal := true } ferry = .ok _ from rfl)
  obtain ⟨-, -, hcount, hverdicts⟩ := haccounts ferriedCar ⟨1⟩ (by decide) (by decide)
  exact ⟨hcount.trans (by decide), hverdicts⟩

end ClassGraph
