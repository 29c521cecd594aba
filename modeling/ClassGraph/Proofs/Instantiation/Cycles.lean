import ClassGraph.Proofs.Instantiation.Accounts
import ClassGraph.Proofs.Report.Commands

/-!
# Cycles of owners in class models

The compositions in a graph have no cycle, so that of a cycle of classes that own one another one
composition is refused and reported (`instantiate_reports_cycle`), and a check of these classes
fails. A class that owns itself is no such cycle: it asks for no composition.
-/

open Relation

namespace ClassGraph

namespace Declared

variable {d : Declared} {settings : Extraction}

/-- A class has a composition to another or to itself, and both have entities. -/
def NamesPart (d : Declared) (settings : Extraction) (whole part : String) : Prop :=
  d.HasEntity settings whole ∧ d.HasEntity settings part ∧
    ∃ c, d[whole]? = some c ∧ ∃ r ∈ c.relations, r.kind = .composition ∧ r.target = part

/-- A class owns another exactly when it has a composition to it and the two are different. -/
theorem owns_iff {whole part : String} :
    d.Owns settings whole part ↔ whole ≠ part ∧ d.NamesPart settings whole part := Iff.rfl

/-- A chain of compositions to another class is one of ownership. -/
theorem transGen_owns {name other : String} (h : TransGen (d.NamesPart settings) name other) :
    name = other ∨ TransGen (d.Owns settings) name other := by
  induction h with
  | @single other hstep =>
    by_cases hname : name = other
    · exact .inl hname
    · exact .inr (.single (owns_iff.mpr ⟨hname, hstep⟩))
  | @tail whole part _ hstep ih =>
    -- A step from a class to itself can be left out.
    by_cases hname : whole = part
    · exact hname ▸ ih
    · have howns := owns_iff.mpr ⟨hname, hstep⟩
      rcases ih with rfl | ih
      · exact .inr (.single howns)
      · exact .inr (ih.tail howns)

/-- A chain of compositions from a class to another and back is a cycle of owners. -/
theorem transGen_owns_of_cycle {name other : String} (hne : name ≠ other)
    (hto : TransGen (d.NamesPart settings) name other)
    (hfrom : TransGen (d.NamesPart settings) other name) :
    TransGen (d.Owns settings) name name :=
  ((transGen_owns hto).resolve_left hne).trans ((transGen_owns hfrom).resolve_left hne.symm)

end Declared

namespace Instantiation

variable {settings : Extraction} {classes : List Classifier} {i : Instantiation}

/-- The composition of a class that another owns is an edge, or an issue that names the reason. -/
theorem composes_or_issue (h : instantiate settings classes = .ok i) {whole part : String}
    {source target : EntityId} (howns : (Declared.ofList classes).Owns settings whole part)
    (hsource : i.entityOf[whole]? = some source) (htarget : i.entityOf[part]? = some target) :
    i.graph.Composes source target ∨ ∃ error, ⟨whole, error⟩ ∈ i.issues ∧
      i.graph.Obstructs { source, target, kind := .composition } error := by
  obtain ⟨hne, -, -, c, hc, r, hr, hkind, rfl⟩ := howns
  obtain rfl := Declared.named_ofList classes hc
  -- The composition is among the links that the account of the class settles.
  obtain ⟨verdicts, haccounts⟩ := exists_accounts h hc hsource
  refine (haccounts.edge_or_issue hr (.part hkind hne.symm htarget)).imp_left ?_
  rintro ⟨e, he, hlink⟩
  obtain ⟨x, hx⟩ := EntityGraph.mem_allEdges.mp he
  exact ⟨x, e, hx, by rw [hlink], by rw [hlink], by rw [hlink]⟩

/-- A composition that is asked for joins two entities. -/
theorem Populated.source_ne_target {registry : Registry} {names : String → Prop}
    (h : Populated registry names i) {c : Classifier} {r : Relation} {l : Link}
    (hsource : i.entityOf[c.name]? = some l.source) (hasks : i.Asks c l.source r l)
    (hkind : l.kind = .composition) : l.source ≠ l.target := by
  generalize hs : l.source = source at hsource hasks
  cases hasks with
  | part _ hne htarget =>
    rintro rfl
    exact hne (h.name_unique htarget hsource)
  | reference hreference =>
    obtain hkind : r.kind = .composition := hkind
    simp [hkind] at hreference
  | use => cases hkind

/-- No issue says that an entity was to own itself. -/
theorem ne_self_cycle_of_mem_issues (h : instantiate settings classes = .ok i) {x : Issue}
    (hx : x ∈ i.issues) (id : EntityId) : x.error ≠ .cycle id id := by
  intro herror
  have hd : (Declared.ofList classes).Named := Declared.named_ofList classes
  obtain ⟨r, all, hr, hadds, hall⟩ := exists_adds_of_instantiate h
  obtain ⟨hissues, hmade⟩ := hd.made_spec hr
  rw [hadds.issues, hissues, List.mem_append, List.mem_filterMap, List.mem_filterMap] at hx
  rcases hx with ⟨c, -, hx⟩ | ⟨v, hv, hx⟩
  · -- The issues before the first link are violations of roles.
    have hcontract := not_concernsLink_of_violation hx
    rw [herror] at hcontract
    cases hcontract
  · have hresult := (Verdict.issue?_eq_some_iff.mp hx).1
    obtain ⟨hkind, hs, ht⟩ := (hadds.obstructs v hv _ (herror ▸ hresult)).of_cycle
    obtain ⟨c, -, -, hsource, r, -, hasks⟩ := exists_asks_of_mem hall hv
    exact hmade.source_ne_target hsource hasks hkind (hs.trans ht.symm)

end Instantiation

/-! ## The main result -/

/-- When compositions lead from a class to another and back, some class on the way has an issue with
its composition of the next, so that a check of these classes fails. No issue says that an entity
was to own itself. -/
theorem instantiate_reports_cycle {settings : Extraction} {classes : List Classifier}
    {i : Instantiation} (h : instantiate settings classes = .ok i) :
    let d := Declared.ofList classes
    (∀ name : String, d[name]? = classes.reverse.find? fun c => c.name = name) ∧
    (∀ name other, name ≠ other → TransGen (d.NamesPart settings) name other →
      TransGen (d.NamesPart settings) other name →
        (∃ whole part source target error, d.Owns settings whole part ∧
          ReflTransGen (d.Owns settings) name whole ∧ ReflTransGen (d.Owns settings) part name ∧
          i.entityOf[whole]? = some source ∧ i.entityOf[part]? = some target ∧
          ⟨whole, error⟩ ∈ i.issues ∧
          i.graph.Obstructs { source, target, kind := .composition } error) ∧
        ∀ (w : Workspace) (all : Settings) (selection : Command.Selection)
          (files : List (String × String)), all.extraction = settings →
            selection.files w = .ok files → Source.extractAll settings files = classes →
              (Command.runCheck w all selection).status = .failure) ∧
    (∀ x ∈ i.issues, ∀ id, x.error ≠ .cycle id id) := by
  intro d
  have hd : d.Named := Declared.named_ofList classes
  obtain ⟨r, all, hr, hadds, -⟩ := Instantiation.exists_adds_of_instantiate h
  have hmade := (hd.made_spec hr).2
  have hentity : ∀ {name : String}, d.HasEntity settings name →
      ∃ id, i.entityOf[name]? = some id := by
    intro name hname
    rw [hadds.entityOf]
    exact hmade.exists_entity hname
  refine ⟨Declared.getElem?_ofList classes, fun name other hne hto hfrom => ?_, fun x hx id =>
    Instantiation.ne_self_cycle_of_mem_issues h hx id⟩
  -- The compositions of the graph have no cycle, and so lack one that the classes ask for.
  obtain ⟨whole, part, howns, hwhole, hpart, hlacks⟩ :=
    hadds.wellFormed.acyclic.exists_step_of_cycle (fun name => i.entityOf[name]?.getD ⟨0⟩)
      (Declared.transGen_owns_of_cycle hne hto hfrom)
  obtain ⟨source, hsource⟩ := hentity howns.2.1
  obtain ⟨target, htarget⟩ := hentity howns.2.2.1
  rw [hsource, htarget, Option.getD_some, Option.getD_some] at hlacks
  obtain ⟨error, hissue, hobstructs⟩ :=
    (Instantiation.composes_or_issue h howns hsource htarget).resolve_left hlacks
  refine ⟨⟨whole, part, source, target, error, howns, hwhole, hpart, hsource, htarget, hissue,
    hobstructs⟩, ?_⟩
  rintro w all selection files rfl hfiles rfl
  rw [Command.status_runCheck hfiles h, Findings.count]
  have hpos : 0 < i.issues.length := List.length_pos_of_mem hissue
  simp only [Findings.ofInstantiation]
  omega

/-- A file with a hull and a frame that own one another. -/
def shipyard : Workspace where
  root := .folder [("Ship.java", .file
    "class Hull { Frame frame = new Frame(); } class Frame { Hull hull = new Hull(); }")]
  currentPath := "/shipyard"

/-- The hull and the frame. -/
def hullAndFrame : List Classifier :=
  [{ name := "Hull", kind := .plain, visibility := .toPackage
     fields := [{ name := "frame", typeName := "Frame", visibility := .toPackage }]
     relations := [{ kind := .composition, target := "Frame", via := some "frame" }] },
    { name := "Frame", kind := .plain, visibility := .toPackage
      fields := [{ name := "hull", typeName := "Hull", visibility := .toPackage }]
      relations := [{ kind := .composition, target := "Hull", via := some "hull" }] }]

/-- The frame is the first to own the other, so that the hull cannot, and a check of the file
fails. -/
theorem status_runCheck_shipyard :
    (∃ i, instantiate {} hullAndFrame = .ok i ∧ i.issues = [⟨"Hull", .cycle ⟨2⟩ ⟨1⟩⟩]) ∧
      (Command.runCheck shipyard {} { path := "Ship.java" }).status = .failure := by
  have hread : (Command.Selection.files { path := "Ship.java" } shipyard).map
      (Source.extractAll {}) = .ok hullAndFrame := by decide +kernel
  obtain ⟨files, hfiles, hclasses⟩ := Outcome.map_eq_ok_iff.mp hread
  have hhull : (Declared.ofList hullAndFrame).HasEntity {} "Hull" := .inl ⟨_, rfl, rfl⟩
  have hframe : (Declared.ofList hullAndFrame).HasEntity {} "Frame" := .inl ⟨_, rfl, rfl⟩
  obtain ⟨-, hcycle, -⟩ :=
    instantiate_reports_cycle (show instantiate {} hullAndFrame = .ok _ from rfl)
  refine ⟨⟨_, rfl, by decide⟩, ?_⟩
  refine (hcycle "Hull" "Frame" (by decide) (.single ?_) (.single ?_)).2 shipyard {} _ files rfl
    hfiles hclasses
  · exact ⟨hhull, hframe, _, rfl, _, List.mem_singleton_self _, rfl, rfl⟩
  · exact ⟨hframe, hhull, _, rfl, _, List.mem_singleton_self _, rfl, rfl⟩

/-- A class that owns itself. -/
def selfOwned : List Classifier :=
  [{ name := "Node", kind := .plain, relations := [
    { kind := .composition, target := "Node", via := some "child" }] }]

/-- A class that owns itself has a cycle of compositions and no issue. -/
theorem issues_selfOwned : ∃ i, instantiate {} selfOwned = .ok i ∧
    TransGen ((Declared.ofList selfOwned).NamesPart {}) "Node" "Node" ∧ i.issues = [] := by
  have hentity : (Declared.ofList selfOwned).HasEntity {} "Node" := .inl ⟨_, rfl, rfl⟩
  exact ⟨_, rfl, .single ⟨hentity, hentity, _, rfl, _, List.mem_singleton_self _, rfl, rfl⟩,
    by decide⟩

end ClassGraph
