import ClassGraph.Proofs.Instantiation.Issues

/-!
# Verdicts on links

On each link that a class asks for there is a verdict: the number of the new edge, or the reason for
which there is none (`Verdict`). Adding links one after the other stores the granted ones and
reports the refused ones, both in their order, and nothing else (`Adds`, `adds_foldl_addLink`). No
edge goes meanwhile, so that the graph behind the last link still shows why a link was refused
(`EntityGraph.Obstructs`).
-/

open Relation

namespace ClassGraph

/-! ## Reasons that stay -/

/-- Whether an error is about a link between two live entities. -/
def GraphError.concernsLink : GraphError → Bool
  | .ownershipConflict .. | .cycle .. | .cardinality .. => true
  | .unknown _ | .contract _ | .poisoned => false

namespace EntityGraph

/-- The edges of a graph show why a link is refused. Other than the rules for a new edge, these
reasons do not exclude one another, and none is lost when edges are added. -/
inductive Obstructs (g : EntityGraph) (l : Link) : GraphError → Prop
  /-- The target of a composition has an owner. -/
  | ownershipConflict {owner : EntityId} : l.kind = .composition → g.Composes owner l.target →
    Obstructs g l (.ownershipConflict l.target owner)
  /-- The target of a composition is the source or leads to it over compositions. -/
  | cycle : l.kind = .composition → ReflTransGen g.Composes l.target l.source →
    Obstructs g l (.cycle l.source l.target)
  /-- An association clashes with a stored one. -/
  | cardinality : l.kind = .association → g.Clash l →
    Obstructs g l (.cardinality l.source l.label)

variable {g g' : EntityGraph} {l : Link} {error : GraphError}

/-- A rule that a new edge breaks obstructs it. -/
theorem BreaksRule.obstructs (h : g.BreaksRule l error) : g.Obstructs l error := by
  cases h with
  | ownershipConflict hkind hc => exact .ownershipConflict hkind hc
  | cycle hkind _ hchain => exact .cycle hkind hchain
  | cardinality hkind hclash => exact .cardinality hkind hclash

/-- What obstructs a link does so still when edges are added. -/
theorem Obstructs.mono (h : g.Obstructs l error)
    (hedges : ∀ {i : EdgeId} {e : Edge}, g.edges[i]? = some e → g'.edges[i]? = some e) :
    g'.Obstructs l error := by
  -- Each reason is a stored edge or a chain of them, and these are still there.
  cases h with
  | ownershipConflict hkind hc => exact .ownershipConflict hkind (hc.of_edges hedges)
  | cycle hkind hchain =>
    exact .cycle hkind (ReflTransGen.mono (fun _ _ hc => hc.of_edges hedges) _ _ hchain)
  | cardinality hkind hclash =>
    obtain ⟨i, e, he, hrest⟩ := hclash
    exact .cardinality hkind ⟨i, e, hedges he, hrest⟩

/-- What obstructs a link is about a link between live entities. -/
theorem Obstructs.concernsLink (h : g.Obstructs l error) : error.concernsLink = true := by
  cases h <;> rfl

/-- What a cycle obstructs is the composition between its two ends. -/
theorem Obstructs.of_cycle {x y : EntityId} (h : g.Obstructs l (.cycle x y)) :
    l.kind = .composition ∧ l.source = x ∧ l.target = y := by
  cases h with
  | cycle hkind => exact ⟨hkind, rfl, rfl⟩

end EntityGraph

namespace Instantiation

/-! ## Verdicts -/

/-- What becomes of a link that a class asks for. -/
structure Verdict where
  /-- The class. -/
  className : String
  /-- The link. -/
  link : Link
  /-- The number of the new edge, or the reason for which there is none. -/
  result : Except GraphError EdgeId

namespace Verdict

/-- The edge that a link has become. -/
def edge? (v : Verdict) : Option Edge :=
  match v.result with
  | .ok id => some { toLink := v.link, id }
  | .error _ => none

/-- The issue that a link has become. -/
def issue? (v : Verdict) : Option Issue :=
  match v.result with
  | .ok _ => none
  | .error e => some ⟨v.className, e⟩

section

variable {v : Verdict}

/-- A link that is granted gives an edge. -/
theorem edge?_of_ok {id : EdgeId} (h : v.result = .ok id) :
    v.edge? = some { toLink := v.link, id } := by
  simp [edge?, h]

/-- A link that is refused gives no edge. -/
theorem edge?_of_error {error : GraphError} (h : v.result = .error error) : v.edge? = none := by
  simp [edge?, h]

/-- A link that is granted gives no issue. -/
theorem issue?_of_ok {id : EdgeId} (h : v.result = .ok id) : v.issue? = none := by
  simp [issue?, h]

/-- A link that is refused gives an issue for its class. -/
theorem issue?_of_error {error : GraphError} (h : v.result = .error error) :
    v.issue? = some ⟨v.className, error⟩ := by
  simp [issue?, h]

/-- A verdict gives an edge when it grants the link under the number of the edge. -/
theorem edge?_eq_some_iff {e : Edge} :
    v.edge? = some e ↔ v.result = .ok e.id ∧ e.toLink = v.link := by
  cases h : v.result with
  | error => simp [edge?_of_error h]
  | ok id =>
    rw [edge?_of_ok h, Option.some.injEq, Except.ok.injEq]
    constructor
    · rintro rfl
      exact ⟨rfl, rfl⟩
    · rintro ⟨rfl, hlink⟩
      rw [← hlink]

/-- A verdict gives an issue when it refuses the link of the class with this error. -/
theorem issue?_eq_some_iff {x : Issue} :
    v.issue? = some x ↔ v.result = .error x.error ∧ x.className = v.className := by
  cases h : v.result with
  | ok => simp [issue?_of_ok h]
  | error error =>
    rw [issue?_of_error h, Option.some.injEq, Except.error.injEq]
    constructor
    · rintro rfl
      exact ⟨rfl, rfl⟩
    · rintro ⟨rfl, hname⟩
      rw [← hname]

end

/-- Every link has become an edge or an issue, and not both. -/
theorem length_edges_add_length_issues (verdicts : List Verdict) :
    (verdicts.filterMap edge?).length + (verdicts.filterMap issue?).length = verdicts.length := by
  induction verdicts with
  | nil => rfl
  | cons v verdicts ih =>
    rw [List.length_cons, ← ih]
    cases h : v.result with
    | ok =>
      rw [List.filterMap_cons_some (edge?_of_ok h), List.filterMap_cons_none (issue?_of_ok h),
        List.length_cons]
      omega
    | error =>
      rw [List.filterMap_cons_none (edge?_of_error h), List.filterMap_cons_some (issue?_of_error h),
        List.length_cons]
      omega

end Verdict

/-- Links have been added, with these verdicts, and nothing else has changed. -/
structure Adds (i : Instantiation) (verdicts : List Verdict) (i' : Instantiation) : Prop where
  /-- The graph is well-formed. -/
  wellFormed : i'.graph.WellFormed
  /-- The entities stay as they are. -/
  entities : i'.graph.entities = i.graph.entities
  /-- The entities of the names stay as they are. -/
  entityOf : i'.entityOf = i.entityOf
  /-- Every edge stays as it is. -/
  edges : ∀ {x : EdgeId} {e : Edge}, i.graph.edges[x]? = some e → i'.graph.edges[x]? = some e
  /-- The granted links are edges behind those that there were. -/
  allEdges : i'.graph.allEdges = i.graph.allEdges ++ verdicts.filterMap Verdict.edge?
  /-- The refused links are issues behind those that there were. -/
  issues : i'.issues = i.issues ++ verdicts.filterMap Verdict.issue?
  /-- The graph shows why a link was refused. -/
  obstructs : ∀ v ∈ verdicts, ∀ e, v.result = .error e → i'.graph.Obstructs v.link e

variable {i i' i'' : Instantiation} {l : Link} {v w : List Verdict}

/-- Without links nothing is added. -/
theorem Adds.refl (h : i.graph.WellFormed) : Adds i [] i where
  wellFormed := h
  entities := rfl
  entityOf := rfl
  edges := id
  allEdges := (List.append_nil _).symm
  issues := (List.append_nil _).symm
  obstructs := fun _ hv => absurd hv List.not_mem_nil

/-- What is added in two steps is added. -/
theorem Adds.trans (h : Adds i v i') (h' : Adds i' w i'') : Adds i (v ++ w) i'' where
  wellFormed := h'.wellFormed
  entities := h'.entities.trans h.entities
  entityOf := h'.entityOf.trans h.entityOf
  edges := fun he => h'.edges (h.edges he)
  allEdges := by rw [h'.allEdges, h.allEdges, List.filterMap_append, List.append_assoc]
  issues := by rw [h'.issues, h.issues, List.filterMap_append, List.append_assoc]
  obstructs := by
    intro x hx e he
    rcases List.mem_append.mp hx with hx | hx
    · exact (h.obstructs x hx e he).mono h'.edges
    · exact h'.obstructs x hx e he

/-- The verdict on a link that a class asks for. -/
def verdict (className : String) (i : Instantiation) (l : Link) : Verdict :=
  ⟨className, l, (i.graph.link l).map Prod.fst⟩

/-- The verdicts on links that are asked for one after the other, each with the name of its
class. -/
def verdicts : Instantiation → List (String × Link) → List Verdict
  | _, [] => []
  | i, p :: asked => verdict p.1 i p.2 :: verdicts (addLink p.1 i p.2) asked

/-- There is one verdict for each link that is asked for, in their order. -/
theorem map_verdicts (asked : List (String × Link)) :
    ∀ i : Instantiation, (verdicts i asked).map (fun v => (v.className, v.link)) = asked := by
  induction asked with
  | nil => exact fun _ => rfl
  | cons p asked ih => exact fun i => congrArg (p :: ·) (ih _)

/-- A link between live entities is stored or reported, as the verdict says. -/
theorem adds_addLink (h : i.graph.WellFormed) (hs : l.source ∈ i.graph.entities)
    (ht : l.target ∈ i.graph.entities) (className : String) :
    Adds i [verdict className i l] (addLink className i l) := by
  have hlink := EntityGraph.link_of_live hs ht
  cases hcheck : i.graph.checkKind l with
  | ok =>
    have hresult : (verdict className i l).result = .ok ⟨i.graph.nextEdge⟩ := by
      unfold verdict
      rw [hlink, hcheck]
      rfl
    rw [addLink_of_ok hs ht hcheck]
    -- The new edge has the greatest number so far, and so stands behind all others.
    exact {
      wellFormed := h.link (i := (i.graph.insertEdge l).1)
        (EntityGraph.link_eq_ok_iff.mpr ⟨hs, ht, hcheck, rfl⟩)
      entities := rfl
      entityOf := rfl
      edges := h.edges_insertEdge_of_edges l
      allEdges := by
        rw [h.allEdges_insertEdge, List.filterMap_cons_some (Verdict.edge?_of_ok hresult)]
        rfl
      issues := by
        rw [List.filterMap_cons_none (Verdict.issue?_of_ok hresult)]
        exact (List.append_nil _).symm
      obstructs := by simp [hresult] }
  | error error =>
    have hresult : (verdict className i l).result = .error error := by
      unfold verdict
      rw [hlink, hcheck]
      rfl
    have hobstructs := (h.checkKind_eq_error_iff.mp hcheck).obstructs
    rw [addLink_of_error hs ht hcheck]
    -- The graph stays, and with it the rule that the link breaks.
    exact {
      wellFormed := h
      entities := rfl
      entityOf := rfl
      edges := id
      allEdges := by
        rw [List.filterMap_cons_none (Verdict.edge?_of_error hresult)]
        exact (List.append_nil _).symm
      issues := by
        rw [List.filterMap_cons_some (Verdict.issue?_of_error hresult)]
        rfl
      obstructs := by
        rintro v hv e he
        obtain rfl := List.mem_singleton.mp hv
        obtain rfl := Except.error.inj (hresult.symm.trans he)
        exact hobstructs }

/-- Links between live entities are stored or reported, as the verdicts say. -/
theorem adds_foldl_addLink (asked : List (String × Link)) :
    ∀ {i : Instantiation}, i.graph.WellFormed →
      (∀ p ∈ asked, p.2.source ∈ i.graph.entities ∧ p.2.target ∈ i.graph.entities) →
        Adds i (verdicts i asked) (asked.foldl (fun i p => addLink p.1 i p.2) i) := by
  induction asked with
  | nil => exact fun h _ => .refl h
  | cons p asked ih =>
    intro i h hlive
    rw [List.forall_mem_cons] at hlive
    have hfirst := adds_addLink h hlive.1.1 hlive.1.2 p.1
    -- The entities of the others are live still.
    exact hfirst.trans (ih hfirst.wellFormed fun q hq => hfirst.entities.symm ▸ hlive.2 q hq)

/-! ## The verdicts of one class -/

/-- Among the links that classes of different names ask for, those with the name of a class are its
own. -/
theorem filter_asked (i : Instantiation) {classes : List Classifier}
    (hnames : classes.Pairwise fun c c' => c.name ≠ c'.name) {c : Classifier} (hc : c ∈ classes) :
    (i.asked classes).filter (fun p => p.1 = c.name) =
      (i.classLinks c).map fun l => (c.name, l) := by
  -- The links of any one class pass the filter all or none.
  have hclass : ∀ c' : Classifier,
      ((i.classLinks c').map fun l => (c'.name, l)).filter (fun p => p.1 = c.name) =
        if c'.name = c.name then (i.classLinks c').map fun l => (c'.name, l) else [] := by
    intro c'
    split_ifs with hname <;> simp [List.filter_map, Function.comp_def, hname]
  have hothers : ∀ others : List Classifier, (∀ c' ∈ others, c'.name ≠ c.name) →
      (i.asked others).filter (fun p => p.1 = c.name) = [] := by
    intro others hne
    unfold asked
    rw [List.filter_flatMap, List.flatMap_eq_nil_iff]
    exact fun c' hc' => (hclass c').trans (if_neg (hne c' hc'))
  induction classes with
  | nil => exact absurd hc List.not_mem_nil
  | cons first classes ih =>
    rw [List.pairwise_cons] at hnames
    have hcons : i.asked (first :: classes) =
        ((i.classLinks first).map fun l => (first.name, l)) ++ i.asked classes := rfl
    rw [hcons, List.filter_append, hclass]
    rcases List.mem_cons.mp hc with rfl | hc
    · rw [if_pos rfl, hothers classes fun c' hc' => (hnames.1 c' hc').symm, List.append_nil]
    · rw [if_neg (hnames.1 c hc), ih hnames.2 hc, List.nil_append]

/-! ## The verdicts of an instantiation -/

/-- An instantiation adds the links of the classes at last. -/
theorem exists_adds_of_instantiate {settings : Extraction} {classes : List Classifier}
    (h : instantiate settings classes = .ok i) :
    let d := Declared.ofList classes
    ∃ (r : Registry) (verdicts : List Verdict),
      (d.declarations (d.outside settings)).build = .ok r ∧ (d.made settings r).Adds verdicts i ∧
        verdicts.map (fun v => (v.className, v.link)) = (d.made settings r).asked d.classes := by
  intro d
  have hd : d.Named := Declared.named_ofList classes
  obtain ⟨r, hr, rfl⟩ := instantiate_eq_ok_iff.mp h
  have hmade := (hd.made_spec hr).2
  refine ⟨r, verdicts (d.made settings r) ((d.made settings r).asked d.classes), hr, ?_,
    map_verdicts _ _⟩
  rw [foldl_addLinks_eq d.classes (i := d.made settings r) rfl]
  exact adds_foldl_addLink _ hmade.wellFormed hmade.live_of_mem_asked

/-- No violation is about a link. -/
theorem not_concernsLink_of_violation {r : Registry} {name : String} {roles : List String}
    {x : Issue} (h : r.violation name roles = some x) : x.error.concernsLink = false := by
  unfold Registry.violation at h
  split at h
  · cases h
  · obtain rfl := Option.some.inj h
    rfl

end Instantiation

end ClassGraph
