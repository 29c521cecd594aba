import ClassGraph.Proofs.Graph.Deletion
import ClassGraph.Proofs.Instantiation.Verdicts
import ClassGraph.Proofs.Report.Commands

/-!
# What the report on an impact shows

The report on the impact of a class names the classes of exactly the parts that a deletion takes. Of
the references that the deletion drops it shows those to the instance itself, and not those to its
parts: a dropped reference is in the report exactly when its source has a reference of the same kind
to the instance (`instantiate_impact`). This can be read off the lines because names and entities
correspond one to one (`shownName_inj`), and a line determines the name and the kind that it shows
(`mark_inj`).
-/

open Relation

namespace ClassGraph

/-! ## Names of entities -/

namespace Instantiation

variable {settings : Extraction} {classes : List Classifier} {i : Instantiation}

/-- An entity has the name that it was made for. -/
theorem nameOf_iff_of_instantiate (h : instantiate settings classes = .ok i) {x : EntityId}
    {name : String} : i.nameOf x = some name ↔ i.entityOf[name]? = some x := by
  have hd : (Declared.ofList classes).Named := Declared.named_ofList classes
  obtain ⟨r, verdicts, hr, hadds, -⟩ := exists_adds_of_instantiate h
  have hmade := (hd.made_spec hr).2
  rw [hadds.entityOf, ← hmade.nameOf_eq_some_iff]
  unfold nameOf
  rw [hadds.entities]

/-- A live entity has a name. -/
theorem exists_nameOf {x : EntityId} (hx : x ∈ i.graph.entities) :
    ∃ name, i.nameOf x = some name := by
  obtain ⟨entity, hentity⟩ := (Ordered.mem_iff_exists _ _).mp hx
  exact ⟨entity.typeTag, by rw [nameOf, hentity, Option.map_some]⟩

end Instantiation

namespace Impact

variable {settings : Extraction} {classes : List Classifier} {i : Instantiation}

/-- An entity with a name is shown by it. -/
theorem shownName_of_nameOf {x : EntityId} {name : String} (h : i.nameOf x = some name) :
    shownName i x = name := by
  rw [shownName, h, Option.getD_some]

/-- Different live entities are shown under different names. -/
theorem shownName_inj (h : instantiate settings classes = .ok i) {x y : EntityId}
    (hx : x ∈ i.graph.entities) (hy : y ∈ i.graph.entities)
    (heq : shownName i x = shownName i y) : x = y := by
  obtain ⟨name, hname⟩ := Instantiation.exists_nameOf hx
  obtain ⟨name', hname'⟩ := Instantiation.exists_nameOf hy
  rw [shownName_of_nameOf hname, shownName_of_nameOf hname'] at heq
  rw [Instantiation.nameOf_iff_of_instantiate h] at hname hname'
  rw [heq, hname'] at hname
  exact (Option.some.inj hname).symm

/-! ## Lines of references -/

/-- The kind of a reference, as it stands behind the class of its source. -/
def kindMark (kind : RelationKind) : List Char := [' ', '('] ++ kind.name.toList ++ [')']

/-- An edge as a report shows it: the class of its source and its kind. -/
def referrer (i : Instantiation) (e : Edge) : String := s!"{shownName i e.source} ({e.kind.name})"

/-- A referrer is shown by its name and the kind of its edge. -/
theorem toList_referrer (i : Instantiation) (e : Edge) :
    (referrer i e).toList = (shownName i e.source).toList ++ kindMark e.kind := by
  simp [referrer, kindMark, toString]

/-- The mark of a kind is not the end of that of another. -/
theorem eq_of_kindMark_suffix {kind kind' : RelationKind} (h : kindMark kind <:+ kindMark kind') :
    kind = kind' := by
  cases kind <;> cases kind' <;> first | rfl | exact absurd h (by decide)

/-- The name and the kind can be read off a line that shows them. -/
theorem mark_inj {name name' : List Char} {kind kind' : RelationKind}
    (h : name ++ kindMark kind = name' ++ kindMark kind') : name = name' ∧ kind = kind' := by
  have hend : kindMark kind <:+ name ++ kindMark kind := List.suffix_append _ _
  have hend' : kindMark kind' <:+ name ++ kindMark kind := h ▸ List.suffix_append _ _
  -- Of two ends of one line, the shorter is the end of the longer.
  have hkind : kind = kind' := by
    rcases List.suffix_or_suffix_of_suffix hend hend' with hsuffix | hsuffix
    · exact eq_of_kindMark_suffix hsuffix
    · exact (eq_of_kindMark_suffix hsuffix).symm
  subst hkind
  exact ⟨List.append_cancel_right h, rfl⟩

/-- Two edges between live entities share a line exactly when source and kind agree. -/
theorem referrer_eq_iff (h : instantiate settings classes = .ok i) {e f : Edge}
    (he : e.source ∈ i.graph.entities) (hf : f.source ∈ i.graph.entities) :
    referrer i e = referrer i f ↔ e.source = f.source ∧ e.kind = f.kind := by
  constructor
  · intro heq
    have hchars := congrArg String.toList heq
    rw [toList_referrer, toList_referrer] at hchars
    obtain ⟨hname, hkind⟩ := mark_inj hchars
    exact ⟨shownName_inj h he hf (String.toList_injective hname), hkind⟩
  · rintro ⟨hsource, hkind⟩
    rw [referrer, referrer, hsource, hkind]

/-! ## Parts and references of an entity -/

/-- What is shown of a live entity is what a walk from it visits. -/
theorem reached_of_live {x : EntityId} (hx : x ∈ i.graph.entities) (kinds : KindSet) :
    reached i x kinds = (Walk.start i.graph kinds x).rest.map (shownName i) := by
  rw [reached, EntityGraph.reachable_of_mem hx]

/-- The references to an entity, one line for each source and kind, in ascending order. -/
def referrersOf (i : Instantiation) (x : EntityId) : List String :=
  (Std.ExtTreeSet.ofList
    (((i.graph.edgesTo x).filter fun e => e.kind != .composition).map (referrer i))).toList

/-- The referrers of an entity are listed in ascending order. -/
theorem ascending_referrersOf (i : Instantiation) (x : EntityId) :
    (referrersOf i x).Pairwise fun line line' => compare line line' = .lt :=
  Std.ExtTreeSet.ordered_toList

/-- The referrers of an entity are the sources of the edges to it that are no compositions. -/
theorem mem_referrersOf (hg : i.graph.WellFormed) {x : EntityId} {line : String} :
    line ∈ referrersOf i x ↔
      ∃ e ∈ i.graph.allEdges, e.kind ≠ .composition ∧ e.target = x ∧ referrer i e = line := by
  rw [referrersOf, Std.ExtTreeSet.mem_toList, Ordered.mem_set_ofList, hg.edgesTo_eq_filter,
    List.mem_map]
  simp only [List.mem_filter, bne_iff_ne, decide_eq_true_iff, and_assoc]
  constructor
  · rintro ⟨e, he, htarget, hkind, hline⟩
    exact ⟨e, he, hkind, htarget, hline⟩
  · rintro ⟨e, he, hkind, htarget, hline⟩
    exact ⟨e, he, htarget, hkind, hline⟩

/-- The impact of a class with an instance. -/
theorem ofClass_of_entityNamed {name : String} {x : EntityId}
    (hx : i.entityNamed name = some x) :
    ofClass classes i name = .ok {
      className := name, entity := x
      parts := reached i x .ownership
      uses := reached i x .usage
      referrers := referrersOf i x } := by
  unfold ofClass
  rw [hx]
  rfl

end Impact

/-! ## What a deletion drops -/

/-- A deletion that takes some entities drops a reference: the edge is no composition, and it leads
from an entity that is left to one that goes. -/
def EntityGraph.Drops (g : EntityGraph) (order : List EntityId) (e : Edge) : Prop :=
  e ∈ g.allEdges ∧ e.kind ≠ .composition ∧ e.source ∉ order ∧ e.target ∈ order

/-- What a report shows of a deletion that takes some entities. -/
structure Impact.Shows (impact : Impact) (i : Instantiation) (order : List EntityId) : Prop where
  /-- No part is shown twice. -/
  nodup : impact.parts.Nodup
  /-- The parts are the classes of the entities that go, other than the one that is deleted. -/
  parts : ∀ part, part ∈ impact.parts ↔ ∃ y ∈ order, y ≠ impact.entity ∧ i.nameOf y = some part
  /-- The references are in ascending order, each line once. -/
  ascending : impact.referrers.Pairwise fun line line' => compare line line' = .lt
  /-- They are those to the entity that is deleted. -/
  referrers : ∀ line, line ∈ impact.referrers ↔ ∃ e ∈ i.graph.allEdges,
    e.kind ≠ .composition ∧ e.target = impact.entity ∧ Impact.referrer i e = line
  /-- A dropped reference is shown when its source has one of its kind to the entity that is
  deleted, and not otherwise. -/
  drops : ∀ e, i.graph.Drops order e → (Impact.referrer i e ∈ impact.referrers ↔
    ∃ f, i.graph.Drops order f ∧ f.target = impact.entity ∧ f.source = e.source ∧ f.kind = e.kind)

namespace Impact

section

variable {settings : Extraction} {classes : List Classifier} {i : Instantiation}
variable {x : EntityId} {order : List EntityId} {g' : EntityGraph}

/-- The parts that are shown have different names. -/
theorem nodup_reached (h : instantiate settings classes = .ok i) (hg : i.graph.WellFormed)
    (hx : x ∈ i.graph.entities) (hdeletes : i.graph.Deletes x order g') :
    (reached i x .ownership).Nodup := by
  have hlive : ∀ y ∈ (Walk.start i.graph .ownership x).rest, y ∈ i.graph.entities := fun y hy =>
    hg.live_of_deletes hx hdeletes y ((hg.mem_rest_iff_of_deletes hdeletes y).mp hy).1
  rw [reached_of_live hx]
  refine List.Nodup.map_on (fun y hy z hz heq => ?_) (Walk.nodup_rest_start _ _ _)
  exact shownName_inj h (hlive y hy) (hlive z hz) heq

/-- The parts that are shown are the classes of what a deletion takes besides the entity. -/
theorem mem_reached_iff (hg : i.graph.WellFormed) (hx : x ∈ i.graph.entities)
    (hdeletes : i.graph.Deletes x order g') {part : String} :
    part ∈ reached i x .ownership ↔ ∃ y ∈ order, y ≠ x ∧ i.nameOf y = some part := by
  rw [reached_of_live hx, List.mem_map]
  constructor
  · rintro ⟨y, hy, rfl⟩
    obtain ⟨hy, hne⟩ := (hg.mem_rest_iff_of_deletes hdeletes y).mp hy
    obtain ⟨part, hpart⟩ := Instantiation.exists_nameOf (hg.live_of_deletes hx hdeletes y hy)
    exact ⟨y, hy, hne, by rw [shownName_of_nameOf hpart, hpart]⟩
  · rintro ⟨y, hy, hne, hpart⟩
    exact ⟨y, (hg.mem_rest_iff_of_deletes hdeletes y).mpr ⟨hy, hne⟩, shownName_of_nameOf hpart⟩

/-- The line of a dropped reference is shown for a reference of the same source and kind to the
entity itself. -/
theorem referrer_mem_iff (h : instantiate settings classes = .ok i) (hg : i.graph.WellFormed)
    (hdeletes : i.graph.Deletes x order g') {e : Edge} (he : i.graph.Drops order e) :
    referrer i e ∈ referrersOf i x ↔
      ∃ f, i.graph.Drops order f ∧ f.target = x ∧ f.source = e.source ∧ f.kind = e.kind := by
  have hself : x ∈ order := (hdeletes.mem_iff x).mpr .refl
  have hsource : ∀ e ∈ i.graph.allEdges, e.source ∈ i.graph.entities := by
    intro e he
    obtain ⟨id, hid⟩ := EntityGraph.mem_allEdges.mp he
    exact hg.source_live hid
  obtain ⟨he, -, hleft, -⟩ := he
  rw [mem_referrersOf hg]
  constructor
  · rintro ⟨f, hf, hkind, htarget, hline⟩
    obtain ⟨hfsource, hfkind⟩ := (referrer_eq_iff h (hsource f hf) (hsource e he)).mp hline
    exact ⟨f, ⟨hf, hkind, hfsource ▸ hleft, htarget ▸ hself⟩, htarget, hfsource, hfkind⟩
  · rintro ⟨f, ⟨hf, hkind, -, -⟩, htarget, hfsource, hfkind⟩
    exact ⟨f, hf, hkind, htarget,
      (referrer_eq_iff h (hsource f hf) (hsource e he)).mpr ⟨hfsource, hfkind⟩⟩

end

end Impact

/-! ## The main result -/

/-- The instance of a class can be deleted, and the report on its impact shows the parts that go
with it and, of the references that are dropped, those of a source and kind that has one to the
instance. A command reports this on files from which the classes are read. -/
theorem instantiate_impact {settings : Extraction} {classes : List Classifier} {i : Instantiation}
    (h : instantiate settings classes = .ok i) {name : String} {x : EntityId}
    (hx : i.entityNamed name = some x) :
    ∃ order g' impact, i.graph.delete x = .ok (order, g') ∧ i.graph.Deletes x order g' ∧
      Impact.ofClass classes i name = .ok impact ∧ impact.className = name ∧ impact.entity = x ∧
      impact.Shows i order ∧
      ∀ (w : Workspace) (all : Settings) (selection : Command.Selection)
        (files : List (String × String)), all.extraction = settings →
          selection.files w = .ok files → Source.extractAll settings files = classes →
            (Command.runImpact w all selection name).status = .success ∧
            (Command.runImpact w all selection name).output =
              Command.textOfLines impact.lines := by
  obtain ⟨r, verdicts, -, hadds, -⟩ := Instantiation.exists_adds_of_instantiate h
  have hg : i.graph.WellFormed := hadds.wellFormed
  have hname : i.nameOf x = some name := (Instantiation.nameOf_iff_of_instantiate h).mpr hx
  have hlive : x ∈ i.graph.entities := by
    obtain ⟨entity, hentity, -⟩ := Option.map_eq_some_iff.mp hname
    exact (Ordered.mem_iff_exists _ _).mpr ⟨entity, hentity⟩
  obtain ⟨order, g', hdelete, hdeletes⟩ := hg.exists_delete hlive
  have himpact : Impact.ofClass classes i name = .ok _ := Impact.ofClass_of_entityNamed hx
  refine ⟨order, g', _, hdelete, hdeletes, himpact, rfl, rfl, ?_, ?_⟩
  · exact {
      nodup := Impact.nodup_reached h hg hlive hdeletes
      parts := fun part => Impact.mem_reached_iff hg hlive hdeletes
      ascending := Impact.ascending_referrersOf i x
      referrers := fun line => Impact.mem_referrersOf hg
      drops := fun e he => Impact.referrer_mem_iff h hg hdeletes he }
  rintro w all selection files rfl hfiles rfl
  exact Command.runImpact_of_ofClass hfiles h himpact

/-- A file with a car that owns its engine, and a mechanic who works on the engine. -/
def garage : Workspace where
  root := .folder [("Garage.java", .file ("class Engine {} " ++
    "class Car { private Engine engine = new Engine(); } " ++
    "class Mechanic { private Engine engine; }"))]
  currentPath := "/garage"

/-- The engine, the car and the mechanic. -/
def carAndMechanic : List Classifier :=
  let engine : Field := { name := "engine", typeName := "Engine", visibility := .toClass }
  [{ name := "Engine", kind := .plain, visibility := .toPackage },
    { name := "Car", kind := .plain, visibility := .toPackage
      fields := [engine]
      relations := [{ kind := .composition, target := "Engine", via := some "engine" }] },
    { name := "Mechanic", kind := .plain, visibility := .toPackage
      fields := [engine]
      relations := [{ kind := .association, target := "Engine", via := some "engine"
                      cardinality := some .one }] }]

/-- The engine is reported to go with the car. -/
theorem shows_garage :
    ∃ (i : Instantiation) (order : List EntityId) (g' : EntityGraph) (impact : Impact),
      instantiate {} carAndMechanic = .ok i ∧ i.graph.delete ⟨1⟩ = .ok (order, g') ∧
      impact.Shows i order ∧ "Engine" ∈ impact.parts ∧
      (Command.runImpact garage {} { path := "Garage.java" } "Car").output =
        Command.textOfLines impact.lines := by
  have hread : (Command.Selection.files { path := "Garage.java" } garage).map
      (Source.extractAll {}) = .ok carAndMechanic := by decide +kernel
  obtain ⟨files, hfiles, hclasses⟩ := Outcome.map_eq_ok_iff.mp hread
  obtain ⟨i, hi, hcar, hengine, hcomposes⟩ : ∃ i, instantiate {} carAndMechanic = .ok i ∧
      i.entityNamed "Car" = some ⟨1⟩ ∧ i.nameOf ⟨2⟩ = some "Engine" ∧
      i.graph.Composes ⟨1⟩ ⟨2⟩ := ⟨_, rfl, rfl, rfl, ⟨1⟩, _, rfl, rfl, rfl, rfl⟩
  obtain ⟨order, g', impact, hdelete, hdeletes, -, -, hentity, hshows, hcommand⟩ :=
    instantiate_impact hi hcar
  have hgoes : (⟨2⟩ : EntityId) ∈ order := (hdeletes.mem_iff _).mpr (.single hcomposes)
  have hne : (⟨2⟩ : EntityId) ≠ impact.entity := by
    rw [hentity]
    decide
  exact ⟨i, order, g', impact, hi, hdelete, hshows,
    (hshows.parts "Engine").mpr ⟨⟨2⟩, hgoes, hne, hengine⟩,
    (hcommand garage {} _ files rfl hfiles hclasses).2⟩

/-- The mechanic loses the engine with the car, and the report on the car does not show it. -/
theorem not_shown_garage :
    ∃ (i : Instantiation) (order : List EntityId) (g' : EntityGraph) (impact : Impact) (e : Edge),
      instantiate {} carAndMechanic = .ok i ∧ i.entityNamed "Car" = some ⟨1⟩ ∧
      i.graph.delete ⟨1⟩ = .ok (order, g') ∧
      i.graph.Drops order e ∧ Impact.ofClass carAndMechanic i "Car" = .ok impact ∧
      Impact.referrer i e ∉ impact.referrers := by
  let reference : Edge := {
    source := ⟨3⟩, target := ⟨2⟩, kind := .association, label := some "engine"
    cardinality := some .one, id := ⟨2⟩ }
  refine ⟨_, _, _, _, reference, rfl, rfl, rfl, ?_, rfl, ?_⟩
  · unfold EntityGraph.Drops
    decide
  · decide

end ClassGraph
