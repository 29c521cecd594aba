import ClassGraph.Proofs.Graph.Inside
import ClassGraph.Proofs.Instantiation.Numbered
import ClassGraph.Proofs.Instantiation.Substitution
import ClassGraph.Proofs.Registry.Growth

/-!
# Outside types

To include the types that are referred to and not declared is to add to an instantiation and to
change nothing of it (`instantiate_includeExternal`). The registry has more types
(`declarations_within`), so that the classes violate the same roles; their entities are numbered
before the outside ones (`Named.entityOf_eq`) and carry the same roles (`Named.entity_eq`). What
the classes ask for without the outside types are the links to inner entities among those that they
ask for with them (`asked_eq_filter`), and, added one after the other, these meet the same verdicts:
one run mirrors the other (`Mirrors.foldl`).
-/

open Relation

namespace ClassGraph

/-! ## Links that are added in two graphs -/

/-- An issue that is about the owner of an outer part. -/
def Issue.sharesOuter (inner : EntityId → Bool) (x : Issue) : Bool :=
  match x.error with
  | .ownershipConflict part _ => !inner part
  | _ => false

namespace Instantiation

/-- One instantiation is another without its outer entities and what is about them. -/
structure Mirrors (inner : EntityId → Bool) (i i' : Instantiation) : Prop where
  /-- The graph is well-formed. -/
  wellFormed : i.graph.WellFormed
  /-- The other graph is well-formed. -/
  wellFormed' : i'.graph.WellFormed
  /-- The graph is inside the other. -/
  inside : EntityGraph.IsInside inner i.graph i'.graph
  /-- The issues are those that are about no outer part. -/
  issues : i.issues = i'.issues.filter fun x => !x.sharesOuter inner

/-- What a link that is asked for has to do with two graphs: its ends are live, the source and,
where it is asked for in both, the target are inner entities, and no association clashes with it. -/
structure Fits (inner : EntityId → Bool) (i i' : Instantiation) (l : Link) : Prop where
  /-- The source is an inner entity. -/
  inner_source : inner l.source = true
  /-- The source is live in the other graph. -/
  source : l.source ∈ i'.graph.entities
  /-- The target is live in the other graph. -/
  target : l.target ∈ i'.graph.entities
  /-- The inner entities are live in the first graph. -/
  live : ∀ x, inner x = true → x ∈ i.graph.entities
  /-- No association clashes with the link. -/
  clash : l.kind = .association → ¬ i'.graph.Clash l

variable {inner : EntityId → Bool} {i i' : Instantiation} {l l' : Link}

/-- A link between inner entities has the same verdict in both graphs. -/
theorem Mirrors.addLink_inner (h : Mirrors inner i i') (hl : Fits inner i i' l)
    (htarget : inner l.target = true) (className : String) :
    Mirrors inner (addLink className i l) (addLink className i' l) := by
  have hs := hl.live _ hl.inner_source
  have ht := hl.live _ htarget
  have hcheck := h.inside.checkKind_eq h.wellFormed h.wellFormed' hl.inner_source htarget hl.clash
  have hwf := (adds_addLink h.wellFormed hs ht className).wellFormed
  have hwf' := (adds_addLink h.wellFormed' hl.source hl.target className).wellFormed
  cases hcheck' : i'.graph.checkKind l with
  | ok =>
    rw [addLink_of_ok hs ht (hcheck.trans hcheck')] at hwf ⊢
    rw [addLink_of_ok hl.source hl.target hcheck'] at hwf' ⊢
    exact ⟨hwf, hwf', h.inside.insertEdge h.wellFormed h.wellFormed' hl.inner_source htarget,
      h.issues⟩
  | error error =>
    rw [addLink_of_error hs ht (hcheck.trans hcheck')] at hwf ⊢
    rw [addLink_of_error hl.source hl.target hcheck'] at hwf' ⊢
    refine ⟨hwf, hwf', h.inside, ?_⟩
    -- The refusal is about the target, if it is about the owner of a part.
    have hinner : (!Issue.sharesOuter inner ⟨className, error⟩) = true := by
      cases h.wellFormed'.checkKind_eq_error_iff.mp hcheck' with
      | ownershipConflict => simp [Issue.sharesOuter, htarget]
      | cycle => rfl
      | cardinality => rfl
    simp only [addIssue, List.filter_append, ← h.issues, List.filter_singleton, hinner, cond_true]

/-- A link to an outer entity is an edge of the other graph, or an issue about its target. -/
theorem Mirrors.addLink_outer (h : Mirrors inner i i') (hl : Fits inner i i' l)
    (htarget : inner l.target = false) (className : String) :
    Mirrors inner i (addLink className i' l) := by
  have hwf' := (adds_addLink h.wellFormed' hl.source hl.target className).wellFormed
  cases hcheck' : i'.graph.checkKind l with
  | ok =>
    rw [addLink_of_ok hl.source hl.target hcheck'] at hwf' ⊢
    exact ⟨h.wellFormed, hwf', h.inside.insertEdge_outer h.wellFormed' hl.inner_source htarget,
      h.issues⟩
  | error error =>
    obtain ⟨owner, rfl⟩ := h.inside.exists_owner_of_error h.wellFormed' hl.inner_source htarget
      hl.clash hcheck'
    rw [addLink_of_error hl.source hl.target hcheck'] at hwf' ⊢
    refine ⟨h.wellFormed, hwf', h.inside, ?_⟩
    have houter : (!Issue.sharesOuter inner
        ⟨className, .ownershipConflict l.target owner⟩) = false := by
      simp [Issue.sharesOuter, htarget]
    simp only [addIssue, List.filter_append, ← h.issues, List.filter_singleton, houter, cond_false,
      List.append_nil]

/-- Adding a link leaves the entities. -/
theorem entities_addLink (className : String) (i : Instantiation) (l : Link) :
    (addLink className i l).graph.entities = i.graph.entities := by
  unfold addLink
  cases hlink : i.graph.link l with
  | error => rfl
  | ok result =>
    obtain ⟨-, -, -, rfl⟩ := EntityGraph.link_eq_ok_iff.mp hlink
    rfl

/-- A link that does not clash with the one that is added clashes with no more than before. -/
theorem clash_addLink (h : i.graph.WellFormed) (className : String)
    (hkind : l'.kind = .association) (hclash : ¬ l.Clashes l')
    (hc : (addLink className i l).graph.Clash l') : i.graph.Clash l' := by
  unfold addLink at hc
  cases hlink : i.graph.link l with
  | error =>
    rw [hlink] at hc
    exact hc
  | ok result =>
    rw [hlink] at hc
    obtain ⟨-, -, -, rfl⟩ := EntityGraph.link_eq_ok_iff.mp hlink
    exact ((EntityGraph.clash_insertEdge h l hkind).mp hc).resolve_right hclash

/-- A link goes on fitting when another is added with which it does not clash. -/
theorem Fits.addLink {j : Instantiation} (h : Fits inner i i' l') (h' : i'.graph.WellFormed)
    (hclash : ¬ l.Clashes l') (hentities : j.graph.entities = i.graph.entities)
    (className : String) : Fits inner j (addLink className i' l) l' where
  inner_source := h.inner_source
  source := entities_addLink className i' l ▸ h.source
  target := entities_addLink className i' l ▸ h.target
  live := hentities ▸ h.live
  clash := fun hkind hc => h.clash hkind (clash_addLink h' className hkind hclash hc)

/-- Links that are added one after the other leave a mirror of the graph to which only those between
inner entities are added. -/
theorem Mirrors.foldl (asked : List (String × Link)) :
    ∀ {i i' : Instantiation}, Mirrors inner i i' → (∀ p ∈ asked, Fits inner i i' p.2) →
      asked.Pairwise (fun p q => ¬ p.2.Clashes q.2) →
        Mirrors inner ((asked.filter fun p => inner p.2.target).foldl
          (fun i p => addLink p.1 i p.2) i) (asked.foldl (fun i p => addLink p.1 i p.2) i') := by
  induction asked with
  | nil => exact fun h _ _ => h
  | cons p asked ih =>
    intro i i' h hfits hclash
    obtain ⟨hfirst, hrest⟩ := List.forall_mem_cons.mp hfits
    obtain ⟨hclash, hclashes⟩ := List.pairwise_cons.mp hclash
    rw [List.foldl_cons]
    cases htarget : inner p.2.target with
    | true =>
      rw [List.filter_cons, htarget, if_pos rfl, List.foldl_cons]
      refine ih (h.addLink_inner hfirst htarget p.1) (fun q hq => ?_) hclashes
      exact (hrest q hq).addLink h.wellFormed' (hclash q hq) (entities_addLink p.1 i p.2) p.1
    | false =>
      rw [List.filter_cons, htarget, if_neg Bool.false_ne_true]
      refine ih (h.addLink_outer hfirst htarget p.1) (fun q hq => ?_) hclashes
      exact (hrest q hq).addLink h.wellFormed' (hclash q hq) rfl p.1

/-! ## Links that are asked for -/

/-- Where the names of outer entities have none, a class asks for those of the links that lead to
inner entities. -/
theorem linksOf_eq_filter
    (h : ∀ name : String, i.entityOf[name]? = i'.entityOf[name]?.filter inner) (c : Classifier)
    (source : EntityId) :
    i.linksOf c source = (i'.linksOf c source).filter fun l => inner l.target := by
  have hlink (name : String) (link : EntityId → Link) (htarget : ∀ id, (link id).target = id) :
      i.entityOf[name]?.map link =
        (i'.entityOf[name]?.map link).filter fun l => inner l.target := by
    rw [h]
    cases i'.entityOf[name]? with
    | none => rfl
    | some id => cases hid : inner id <;> simp [Option.filter, htarget, hid]
  have hparts : i.partLinks c source = (i'.partLinks c source).filter fun l => inner l.target := by
    rw [partLinks, partLinks, List.filter_filterMap]
    exact List.filterMap_congr fun name _ => hlink name _ fun _ => rfl
  have hreferences : i.referenceLinks c source =
      (i'.referenceLinks c source).filter fun l => inner l.target := by
    rw [referenceLinks, referenceLinks, List.filter_filterMap]
    exact List.filterMap_congr fun r _ => hlink r.target _ fun _ => rfl
  have huses : i.useLinks c source = (i'.useLinks c source).filter fun l => inner l.target := by
    rw [useLinks, useLinks, List.filter_filterMap]
    exact List.filterMap_congr fun name _ => hlink name _ fun _ => rfl
  rw [linksOf_eq, linksOf_eq, List.filter_append, List.filter_append, hparts, hreferences, huses]

/-- Where the names of outer entities have none, and those of the classes have theirs, the classes
ask for those of the links that lead to inner entities. -/
theorem asked_eq_filter
    (h : ∀ name : String, i.entityOf[name]? = i'.entityOf[name]?.filter inner)
    {classes : List Classifier}
    (hclasses : ∀ c ∈ classes, i.entityOf[c.name]? = i'.entityOf[c.name]?) :
    i.asked classes = (i'.asked classes).filter fun p => inner p.2.target := by
  unfold asked
  rw [List.filter_flatMap]
  refine List.flatMap_congr fun c hc => ?_
  have hlinks : i.classLinks c = (i'.classLinks c).filter fun l => inner l.target := by
    unfold classLinks
    rw [hclasses c hc]
    cases i'.entityOf[c.name]? with
    | none => rfl
    | some source => exact linksOf_eq_filter h c source
  rw [List.filter_map, hlinks]
  rfl

end Instantiation

/-! ## Outside types -/

namespace Declared

variable {d : Declared} {settings settings' : Extraction} {r r' : Registry}

/-- With outside types there are more declarations. -/
theorem Named.declarations_within (hd : d.Named) (hclosed : settings.includeExternal = false)
    (settings' : Extraction) :
    (d.declarations (d.outside settings)).Within (d.declarations (d.outside settings')) where
  types := by
    intro tag decl hdecl
    rcases (hd.getElem?_types hd.notMem_of_mem_outside).mp hdecl with hclass | ⟨houter, -⟩
    · exact (hd.getElem?_types hd.notMem_of_mem_outside).mpr (.inl hclass)
    · rw [hd.mem_outside, hclosed] at houter
      cases houter.1
  roles := rfl

/-- Outside types leave a hierarchy of types valid. -/
theorem Named.exists_build (hd : d.Named) (hclosed : settings.includeExternal = false)
    (hr : (d.declarations (d.outside settings)).build = .ok r) (settings' : Extraction) :
    ∃ r', (d.declarations (d.outside settings')).build = .ok r' := by
  refine Declarations.exists_build fun {tag decl} hdecl => ?_
  rcases (hd.getElem?_types hd.notMem_of_mem_outside).mp hdecl with hclass | ⟨-, rfl⟩
  · -- The type of a class resolves as it does without outside types.
    have hdecl' : (d.declarations (d.outside settings)).types[tag]? = some decl :=
      (hd.getElem?_types hd.notMem_of_mem_outside).mpr (.inl hclass)
    obtain ⟨type, htype, -⟩ := Declarations.exists_type_of_build hr hdecl'
    obtain ⟨decl', hdecl'', hresolve⟩ := (Declarations.getElem?_types_build hr).mp htype
    obtain rfl := Option.some.inj (hdecl'.symm.trans hdecl'')
    exact ⟨type, (hd.declarations_within hclosed settings').resolve hresolve⟩
  · exact Declarations.exists_resolve _ rfl rfl

/-- The classes violate the same roles. -/
theorem Named.issues_made_eq (hd : d.Named) (hclosed : settings.includeExternal = false)
    (hr : (d.declarations (d.outside settings)).build = .ok r)
    (hr' : (d.declarations (d.outside settings')).build = .ok r') :
    (d.made settings' r').issues = (d.made settings r).issues := by
  have hwithin := hd.declarations_within hclosed settings'
  rw [(hd.made_spec hr).1, (hd.made_spec hr').1]
  refine List.filterMap_congr fun c hc => ?_
  obtain ⟨hc, hinstances⟩ := hd.mem_instances.mp hc
  obtain ⟨type, htype, -⟩ :=
    hd.exists_type_of_instance hd.notMem_of_mem_outside hr hc hinstances
  have hsame : r'.types[c.name]? = r.types[c.name]? :=
    (hwithin.getElem?_types hr hr' htype).trans htype.symm
  unfold Registry.violation
  rw [Registry.rolesOfInstance_congr hsame (hwithin.roles_eq hr hr')]

/-- A declared name has the place in the list of entities that it has among the classes. -/
theorem Named.getElem?_entityNames (hd : d.Named) {name : String} (hname : name ∈ d) {k : Nat} :
    (d.entityNames settings)[k]? = some name ↔ (d.instances.map (·.name))[k]? = some name := by
  have houter : name ∉ (d.outside settings).toList := fun houter =>
    hd.notMem_of_mem_outside name (Std.ExtTreeSet.mem_toList.mp houter) hname
  unfold entityNames
  by_cases hk : k < (d.instances.map (·.name)).length
  · rw [List.getElem?_append_left hk]
  · rw [not_lt] at hk
    rw [List.getElem?_append_right hk, List.getElem?_eq_none hk]
    exact iff_of_false (fun hmem => houter (List.mem_of_getElem? hmem)) (by simp)

/-- A declared name has the same entity whether outside types are included or not. -/
theorem Named.entityOf_eq (hd : d.Named)
    (hr : (d.declarations (d.outside settings)).build = .ok r)
    (hr' : (d.declarations (d.outside settings')).build = .ok r') {name : String}
    (hname : name ∈ d) : (d.made settings' r').entityOf[name]? =
      (d.made settings r).entityOf[name]? := by
  refine Option.ext fun id => ?_
  rw [(hd.numbered_made hr).entityOf_iff (hd.made_spec hr).2,
    (hd.numbered_made hr').entityOf_iff (hd.made_spec hr').2]
  simp only [hd.getElem?_entityNames hname]

/-- The entity of a declared name is the same whether outside types are included or not. -/
theorem Named.entity_eq (hd : d.Named)
    (hr : (d.declarations (d.outside settings)).build = .ok r)
    (hr' : (d.declarations (d.outside settings')).build = .ok r') {x : EntityId} {entity : Entity}
    (hentity : (d.made settings r).graph.entities[x]? = some entity) (hname : entity.typeTag ∈ d) :
    (d.made settings' r').graph.entities[x]? = some entity := by
  have hmade := (hd.made_spec hr).2
  have hmade' := (hd.made_spec hr').2
  have hof := (hmade.entityOf entity.typeTag x).mpr ⟨entity, hentity, rfl⟩
  rw [← hd.entityOf_eq hr hr' hname, hmade'.entityOf] at hof
  obtain ⟨entity', hentity', htag⟩ := hof
  have hid : entity'.id = entity.id :=
    (hmade'.wellFormed.entity_id hentity').trans (hmade.wellFormed.entity_id hentity).symm
  -- Both carry the roles that the class of this name satisfies.
  have hroles : entity'.roles = entity.roles := Std.ExtTreeSet.ext_mem fun role => by
    rw [(Instantiation.faithful_made hd hr').roles x entity' hentity' role,
      (Instantiation.faithful_made hd hr).roles x entity hentity role, htag]
  have heq : entity' = entity := by
    cases entity
    cases entity'
    simp_all
  rw [hentity', heq]

section

variable (hd : d.Named) (hclosed : settings.includeExternal = false)
  (hr : (d.declarations (d.outside settings)).build = .ok r)
  (hr' : (d.declarations (d.outside settings')).build = .ok r')

include hd hclosed hr

/-- Without outside types only declared names have entities. -/
theorem Named.mem_of_entityOf {name : String} {x : EntityId}
    (hx : (d.made settings r).entityOf[name]? = some x) : name ∈ d := by
  rcases (hd.made_spec hr).2.names_of_entityOf hx with ⟨c, hc, -⟩ | ⟨hopen, -⟩
  · exact Ordered.mem_of_getElem? hc
  · rw [hclosed] at hopen
    cases hopen

include hr'

/-- The entities without outside types are those of the declared names. -/
theorem Named.contains_iff {name : String} {x : EntityId}
    (hx : (d.made settings' r').entityOf[name]? = some x) :
    (d.made settings r).graph.contains x = true ↔ name ∈ d := by
  have hmade := (hd.made_spec hr).2
  have hmade' := (hd.made_spec hr').2
  rw [EntityGraph.contains_iff]
  constructor
  · intro hlive
    obtain ⟨entity, hentity⟩ := (Ordered.mem_iff_exists _ _).mp hlive
    have hof := (hmade.entityOf entity.typeTag x).mpr ⟨entity, hentity, rfl⟩
    have hname := hd.mem_of_entityOf hclosed hr hof
    rw [← hd.entityOf_eq hr hr' hname] at hof
    exact hmade'.name_unique hof hx ▸ hname
  · intro hname
    rw [hd.entityOf_eq hr hr' hname] at hx
    exact hmade.live hx

/-- Without outside types, of the names that have an entity with them those have one whose entity is
inner. -/
theorem Named.entityOf_eq_filter (name : String) :
    (d.made settings r).entityOf[name]? =
      (d.made settings' r').entityOf[name]?.filter (d.made settings r).graph.contains := by
  by_cases hname : name ∈ d
  · rw [← hd.entityOf_eq hr hr' hname]
    cases hof : (d.made settings' r').entityOf[name]? with
    | none => rfl
    | some x =>
      have hinner := (hd.contains_iff hclosed hr hr' hof).mpr hname
      simp [Option.filter, hinner]
  · have hnone : (d.made settings r).entityOf[name]? = none :=
      Option.eq_none_iff_forall_ne_some.mpr fun x hx => hname (hd.mem_of_entityOf hclosed hr hx)
    rw [hnone]
    cases hof : (d.made settings' r').entityOf[name]? with
    | none => rfl
    | some x =>
      have houter := mt (hd.contains_iff hclosed hr hr' hof).mp hname
      simp [Option.filter, houter]

end

/-- No issue before the first link is about a link. -/
theorem Named.concernsLink_of_mem_made (hd : d.Named)
    (hr : (d.declarations (d.outside settings)).build = .ok r) {x : Issue}
    (hx : x ∈ (d.made settings r).issues) : x.error.concernsLink = false := by
  rw [(hd.made_spec hr).1] at hx
  obtain ⟨c, -, hviolation⟩ := List.mem_filterMap.mp hx
  exact Instantiation.not_concernsLink_of_violation hviolation

/-- Before the first link, the instantiation without outside types mirrors the one with them. -/
theorem Named.mirrors_made (hd : d.Named) (hclosed : settings.includeExternal = false)
    (hr : (d.declarations (d.outside settings)).build = .ok r)
    (hr' : (d.declarations (d.outside settings')).build = .ok r') (inner : EntityId → Bool) :
    Instantiation.Mirrors inner (d.made settings r) (d.made settings' r') := by
  have hmade := (hd.made_spec hr).2
  have hmade' := (hd.made_spec hr').2
  have hlinks : (d.made settings r).graph.allLinks = [] := by
    rw [EntityGraph.allLinks, hmade.allEdges_eq_nil, List.map_nil]
  have hlinks' : (d.made settings' r').graph.allLinks = [] := by
    rw [EntityGraph.allLinks, hmade'.allEdges_eq_nil, List.map_nil]
  refine ⟨hmade.wellFormed, hmade'.wellFormed, ⟨by rw [hlinks, hlinks', List.filter_nil], ?_⟩, ?_⟩
  · rw [hlinks']
    exact fun _ hl => absurd hl List.not_mem_nil
  · -- No issue is about the owner of a part yet.
    rw [hd.issues_made_eq hclosed hr hr']
    refine (List.filter_eq_self.mpr fun x hx => ?_).symm
    have hconcerns := hd.concernsLink_of_mem_made hr hx
    unfold Issue.sharesOuter
    split
    next herror =>
      rw [herror] at hconcerns
      cases hconcerns
    next => rfl

/-- The links of the classes fit to their entities. -/
theorem Named.fits_made (hd : d.Named) (hclosed : settings.includeExternal = false)
    (hr : (d.declarations (d.outside settings)).build = .ok r)
    (hr' : (d.declarations (d.outside settings')).build = .ok r') :
    ∀ p ∈ (d.made settings' r').asked d.classes,
      Instantiation.Fits (d.made settings r).graph.contains (d.made settings r)
        (d.made settings' r') p.2 := by
  rintro ⟨className, l⟩ hp
  have hmade' := (hd.made_spec hr').2
  obtain ⟨hs, ht⟩ := hmade'.live_of_mem_asked _ hp
  obtain ⟨c, hc, -, hl⟩ := Instantiation.mem_asked.mp hp
  obtain ⟨source, hsource, hl⟩ := Instantiation.mem_classLinks.mp hl
  obtain ⟨rfl, -⟩ := Instantiation.ends_of_mem_linksOf hl
  have hname : c.name ∈ d := Ordered.mem_of_getElem? (hd.mem_classes.mp hc)
  exact {
    inner_source := (hd.contains_iff hclosed hr hr' hsource).mpr hname
    source := hs
    target := ht
    live := fun x hx => (EntityGraph.contains_iff _ x).mp hx
    clash := by
      rintro - ⟨i, e, he, -⟩
      simp [hmade'.edges] at he }

/-- No two links of the classes clash when no class has two associations of one name. -/
theorem Named.pairwise_asked (hd : d.Named)
    (hr : (d.declarations (d.outside settings)).build = .ok r)
    (hvia : ∀ (name : String) (c : Classifier), d[name]? = some c → c.relations.Pairwise
      fun a b => ¬ (a.kind = .association ∧ b.kind = .association ∧ a.via = b.via)) :
    ((d.made settings r).asked d.classes).Pairwise fun p q => ¬ p.2.Clashes q.2 := by
  have hunclashing := ((hd.made_spec hr).2.unclashing_iff hd).mpr fun name c hc _ =>
    (hvia name c hc).imp fun hne hclash => hne ⟨hclash.1, hclash.2.1, hclash.2.2.2.2.1⟩
  rw [← Instantiation.map_snd_asked] at hunclashing
  exact List.pairwise_map.mp hunclashing

/-- The instantiation without outside types mirrors the one with them. -/
theorem Named.mirrors (hd : d.Named) (hclosed : settings.includeExternal = false)
    (hr : (d.declarations (d.outside settings)).build = .ok r)
    (hr' : (d.declarations (d.outside settings')).build = .ok r')
    (hvia : ∀ (name : String) (c : Classifier), d[name]? = some c → c.relations.Pairwise
      fun a b => ¬ (a.kind = .association ∧ b.kind = .association ∧ a.via = b.via)) :
    Instantiation.Mirrors (d.made settings r).graph.contains
      (d.classes.foldl Instantiation.addLinks (d.made settings r))
      (d.classes.foldl Instantiation.addLinks (d.made settings' r')) := by
  have hclasses : ∀ c ∈ d.classes, (d.made settings r).entityOf[c.name]? =
      (d.made settings' r').entityOf[c.name]? := fun c hc =>
    (hd.entityOf_eq hr hr' (Ordered.mem_of_getElem? (hd.mem_classes.mp hc))).symm
  rw [Instantiation.foldl_addLinks_eq d.classes rfl, Instantiation.foldl_addLinks_eq d.classes rfl,
    Instantiation.asked_eq_filter (hd.entityOf_eq_filter hclosed hr hr') hclasses]
  exact Instantiation.Mirrors.foldl _ (hd.mirrors_made hclosed hr hr' _)
    (hd.fits_made hclosed hr hr') (hd.pairwise_asked hr' hvia)

end Declared

/-- An issue about the owner of a part is one of a class that asks for this part. -/
theorem exists_owns_of_ownershipConflict {settings : Extraction} {classes : List Classifier}
    {i : Instantiation} (h : instantiate settings classes = .ok i) {x : Issue} (hx : x ∈ i.issues)
    {part owner : EntityId} (herror : x.error = .ownershipConflict part owner) :
    ∃ name : String, i.entityOf[name]? = some part ∧
      (Declared.ofList classes).Owns settings x.className name := by
  have hd : (Declared.ofList classes).Named := Declared.named_ofList classes
  obtain ⟨r, verdicts, hr, hadds, hasked⟩ := Instantiation.exists_adds_of_instantiate h
  have hmade := (hd.made_spec hr).2
  rw [hadds.issues, List.mem_append] at hx
  rcases hx with hx | hx
  · have hconcerns := hd.concernsLink_of_mem_made hr hx
    rw [herror] at hconcerns
    cases hconcerns
  · obtain ⟨v, hv, hissue⟩ := List.mem_filterMap.mp hx
    obtain ⟨hresult, hname⟩ := Instantiation.Verdict.issue?_eq_some_iff.mp hissue
    rw [herror] at hresult
    have hobstructs := hadds.obstructs v hv _ hresult
    have hmem : (v.className, v.link) ∈ (Declared.made _ settings r).asked _ :=
      hasked ▸ List.mem_map_of_mem hv
    obtain ⟨c, hc, hclass, hl⟩ := Instantiation.mem_asked.mp hmem
    cases hobstructs with
    | ownershipConflict hkind =>
      obtain ⟨source, target, name, howns, -, htarget, hlink⟩ :=
        (hmade.mem_classLinks_composition (hd.mem_classes.mp hc)).mp ⟨hl, hkind⟩
      rw [hadds.entityOf, hname, ← hclass, hlink]
      exact ⟨name, htarget, howns⟩

/-- To include outside types is to add to an instantiation. When no class has two associations of
one name, declared names keep their entities, with their roles; the edges between these are the same
in the same order; and the issues are the same but for those of a class that asks for a part that
is an outside type and has an owner. -/
theorem instantiate_includeExternal (settings : Extraction) {classes : List Classifier}
    (hvia : ∀ c ∈ classes, c.relations.Pairwise fun r r' =>
      ¬ (r.kind = .association ∧ r'.kind = .association ∧ r.via = r'.via))
    {i : Instantiation}
    (h : instantiate { settings with includeExternal := false } classes = .ok i) :
    let d := Declared.ofList classes
    let inner := fun x => i.graph.contains x
    ∃ i', instantiate { settings with includeExternal := true } classes = .ok i' ∧
      (∀ name ∈ d, i'.entityOf[name]? = i.entityOf[name]?) ∧
      (∀ (x : EntityId) (entity : Entity), i.graph.entities[x]? = some entity →
        i'.graph.entities[x]? = some entity) ∧
      (∀ (name : String) (x : EntityId), i'.entityOf[name]? = some x →
        (inner x = true ↔ name ∈ d)) ∧
      ((i'.graph.allEdges.filter fun e => inner e.source && inner e.target).map (·.toLink)) =
        i.graph.allEdges.map (·.toLink) ∧
      (i'.issues.filter fun x => !x.sharesOuter inner) = i.issues ∧
      ∀ x ∈ i'.issues, x.sharesOuter inner = true →
        ∃ part owner name, x.error = .ownershipConflict part owner ∧
          i'.entityOf[name]? = some part ∧ name ∉ d ∧
          ∃ c, d[x.className]? = some c ∧
            ∃ r ∈ c.relations, r.kind = .composition ∧ r.target = name := by
  intro d inner
  have hd : d.Named := Declared.named_ofList classes
  have hvia' : ∀ (name : String) (c : Classifier), d[name]? = some c → c.relations.Pairwise
      fun a b => ¬ (a.kind = .association ∧ b.kind = .association ∧ a.via = b.via) := by
    intro name c hc
    rw [Declared.getElem?_ofList] at hc
    exact hvia c (List.mem_reverse.mp (List.mem_of_find?_eq_some hc))
  obtain ⟨r, hr, hi⟩ := instantiate_eq_ok_iff.mp h
  obtain ⟨r', hr'⟩ := hd.exists_build rfl hr { settings with includeExternal := true }
  obtain ⟨i', hi'⟩ : ∃ i', i' = d.classes.foldl Instantiation.addLinks
      (d.made { settings with includeExternal := true } r') := ⟨_, rfl⟩
  have h' : instantiate { settings with includeExternal := true } classes = .ok i' :=
    instantiate_eq_ok_iff.mpr ⟨r', hr', hi'⟩
  have hmade := (hd.made_spec hr).2
  have hmade' := (hd.made_spec hr').2
  -- Behind the last link there are the entities that there were before the first.
  have hadds := Instantiation.adds_foldl_addLink
    ((d.made { settings with includeExternal := false } r).asked d.classes) hmade.wellFormed
    hmade.live_of_mem_asked
  have hadds' := Instantiation.adds_foldl_addLink
    ((d.made { settings with includeExternal := true } r').asked d.classes) hmade'.wellFormed
    hmade'.live_of_mem_asked
  rw [← Instantiation.foldl_addLinks_eq d.classes rfl, ← hi] at hadds
  rw [← Instantiation.foldl_addLinks_eq d.classes rfl, ← hi'] at hadds'
  have hinner : (d.made { settings with includeExternal := false } r).graph.contains = inner := by
    funext x
    simp only [inner, EntityGraph.contains, hadds.entities]
  have hmirrors := hd.mirrors rfl hr hr' hvia'
  rw [hinner, ← hi, ← hi'] at hmirrors
  have hcontains : ∀ (name : String) (x : EntityId), i'.entityOf[name]? = some x →
      (inner x = true ↔ name ∈ d) := by
    intro name x hx
    rw [hadds'.entityOf] at hx
    rw [← hinner]
    exact hd.contains_iff rfl hr hr' hx
  refine ⟨i', h', fun name hname => ?_, fun x entity hentity => ?_, hcontains,
    hmirrors.inside.map_filter_allEdges, hmirrors.issues.symm, fun x hx hshares => ?_⟩
  · rw [hadds.entityOf, hadds'.entityOf]
    exact hd.entityOf_eq hr hr' hname
  · rw [hadds.entities] at hentity
    rw [hadds'.entities]
    have hof := (hmade.entityOf entity.typeTag x).mpr ⟨entity, hentity, rfl⟩
    exact hd.entity_eq hr hr' hentity (hd.mem_of_entityOf rfl hr hof)
  · unfold Issue.sharesOuter at hshares
    split at hshares
    next part owner herror =>
      obtain ⟨name, hpart, -, -, -, c, hc, hr⟩ := exists_owns_of_ownershipConflict h' hx herror
      refine ⟨part, owner, name, herror, hpart, fun hname => ?_, c, hc, hr⟩
      rw [(hcontains name part hpart).mpr hname] at hshares
      cases hshares
    next => cases hshares

/-- A lighthouse that owns a lamp, which is not declared, and serves the pier. -/
def lighthouse : Classifier :=
  { name := "Lighthouse", kind := .plain
    relations := [{ kind := .composition, target := "Lamp" },
      { kind := .association, target := "Pier", via := some "berth" }] }

/-- A yacht that owns the lamp too. -/
def yacht : Classifier :=
  { name := "Yacht", kind := .plain, relations := [{ kind := .composition, target := "Lamp" }] }

/-- With outside types the lamp has two owners, which is an issue of the yacht. The lighthouse and
the pier keep their entities and the edge between them. -/
theorem instantiate_lamp :
    let classes := [pier, lighthouse, yacht]
    (∀ c ∈ classes, c.relations.Pairwise fun r r' =>
      ¬ (r.kind = .association ∧ r'.kind = .association ∧ r.via = r'.via)) ∧
    ∃ i i', instantiate { includeExternal := false } classes = .ok i ∧ i.issues = [] ∧
      instantiate { includeExternal := true } classes = .ok i' ∧
      i'.entityOf["Lighthouse"]? = some ⟨1⟩ ∧ i'.entityOf["Pier"]? = some ⟨2⟩ ∧
      ((i'.graph.allEdges.filter fun e =>
          i.graph.contains e.source && i.graph.contains e.target).map (·.toLink)) =
        [{ source := ⟨1⟩, target := ⟨2⟩, kind := .association, label := some "berth" }] ∧
      ∃ x ∈ i'.issues, x.className = "Yacht" ∧
        ∃ part owner, x.error = .ownershipConflict part owner ∧ i.graph.contains part = false := by
  intro classes
  have hvia : ∀ c ∈ classes, c.relations.Pairwise fun r r' =>
      ¬ (r.kind = .association ∧ r'.kind = .association ∧ r.via = r'.via) := by decide
  obtain ⟨i, hi, hissues, hlighthouse, hpier, hedges⟩ :
      ∃ i, instantiate { includeExternal := false } [pier, lighthouse, yacht] = .ok i ∧
        i.issues = [] ∧ i.entityOf["Lighthouse"]? = some ⟨1⟩ ∧
        i.entityOf["Pier"]? = some ⟨2⟩ ∧ i.graph.allEdges.map (·.toLink) =
          [{ source := ⟨1⟩, target := ⟨2⟩, kind := .association, label := some "berth" }] := by
    refine ⟨_, rfl, ?_, ?_, ?_, ?_⟩
    all_goals decide
  obtain ⟨i', hi', hkept, -, -, hlinks, hsame, hmore⟩ :=
    instantiate_includeExternal { includeExternal := false } hvia hi
  -- The issue is none of those without outside types, so that it is about one.
  obtain ⟨x, hx, hclass⟩ : ∃ x ∈ i'.issues, x.className = "Yacht" := by
    obtain ⟨j, hj, hyacht⟩ :
        ∃ j, instantiate { includeExternal := true } [pier, lighthouse, yacht] = .ok j ∧
          j.issues.map (·.className) = ["Yacht"] := ⟨_, rfl, by decide⟩
    obtain rfl : j = i' := Except.ok.inj (hj.symm.trans hi')
    exact List.mem_map.mp (hyacht ▸ List.mem_singleton_self _)
  have hshares : x.sharesOuter (fun x => i.graph.contains x) = true := by
    by_contra hsome
    have hmem : x ∈ i'.issues.filter fun x => !x.sharesOuter fun x => i.graph.contains x :=
      List.mem_filter.mpr ⟨hx, by simpa using hsome⟩
    rw [hsame, hissues] at hmem
    cases hmem
  obtain ⟨part, owner, -, herror, -, -, -⟩ := hmore x hx hshares
  rw [Issue.sharesOuter, herror, Bool.not_eq_true'] at hshares
  refine ⟨hvia, i, i', hi, hissues, hi', (hkept _ ?_).trans hlighthouse, (hkept _ ?_).trans hpier,
    hlinks.trans hedges, x, hx, hclass, part, owner, herror, hshares⟩
  all_goals decide

end ClassGraph
