import ClassGraph.Proofs.Graph.Consistency
import ClassGraph.Proofs.Instantiation.Hierarchy
import ClassGraph.Proofs.Instantiation.Instances
import ClassGraph.Proofs.Report.Commands

/-!
# Classes without an impact

Of several classes of one name the last one is instantiated, but what is said of a name without an
instance goes by the first one (`Refused`, `Impact.ofClass_eq_error_iff`). That the class could not
be instantiated is said when the first one has instances and the last one has none. Nothing has gone
wrong then, and no issue is about the class: only classes with instances have issues
(`Instantiation.exists_instance_of_mem_issues`). When the classes of a name agree, what is said
holds of the one that is instantiated (`instantiate_whyNone`).
-/

namespace ClassGraph

/-! ## Why a class has no instances -/

/-- A class is of a nature that leaves it without instances. -/
inductive Classifier.HasNature (c : Classifier) : String → Prop
  /-- It is an interface. -/
  | interface : c.kind = .interface → HasNature c "an interface"
  /-- It is an annotation. -/
  | annotationType : c.kind = .annotationType → HasNature c "an annotation"
  /-- It is abstract. -/
  | abstract : c.isAbstract = true → HasNature c "abstract"

/-- The nature that is named of a class without instances is its own. -/
theorem Classifier.hasNature_nature {c : Classifier} (h : c.isInstantiable = false) :
    c.HasNature c.nature := by
  unfold nature
  split
  next hkind => exact .interface hkind
  next hkind => exact .annotationType hkind
  next hinterface hother =>
    have habstract : (!c.isAbstract) = false := by
      simpa [isInstantiable, bne_iff_ne.mpr hinterface, bne_iff_ne.mpr hother] using h
    exact .abstract (by simpa using habstract)

/-- What is said of a name without an instance, from the first class of the name and the one that is
instantiated, which is the last. -/
inductive Refused (settings : Extraction) (classes : List Classifier) (name : String) :
    NoImpact → Prop
  /-- Neither of them has instances, and the first one says why. -/
  | notInstantiable {first last : Classifier} :
    (classes.find? fun c => c.name = name) = some first →
    (classes.reverse.find? fun c => c.name = name) = some last →
    first.isInstantiable = false → last.isInstantiable = false →
    Refused settings classes name (.notInstantiable name first.nature)
  /-- The first one has instances, and the last one has none. -/
  | notInstantiated {first last : Classifier} :
    (classes.find? fun c => c.name = name) = some first →
    (classes.reverse.find? fun c => c.name = name) = some last →
    first.isInstantiable = true → last.isInstantiable = false →
    Refused settings classes name (.notInstantiated name)
  /-- No class has the name, and no outside type that is included. -/
  | unknown : (∀ c ∈ classes, c.name ≠ name) →
    name ∉ (Declared.ofList classes).outside settings →
    Refused settings classes name (.unknown name)

/-- A class that is found from one end of a list has its name. -/
theorem name_of_find? {classes : List Classifier} {name : String} {c : Classifier}
    (h : (classes.find? fun c => c.name = name) = some c) : c.name = name := by
  simpa using List.find?_some h

/-- A name has a first class exactly when it has a last one. -/
theorem find?_eq_none_iff_reverse {classes : List Classifier} {name : String} :
    (classes.find? fun c => c.name = name) = none ↔
      (classes.reverse.find? fun c => c.name = name) = none := by
  simp only [List.find?_eq_none, List.mem_reverse]

/-- When the classes of a name agree, the first one is the last one. -/
theorem eq_of_find? {classes : List Classifier} {name : String}
    (hsame : ∀ c ∈ classes, ∀ c' ∈ classes, c.name = name → c'.name = name → c = c')
    {first last : Classifier} (hfirst : (classes.find? fun c => c.name = name) = some first)
    (hlast : (classes.reverse.find? fun c => c.name = name) = some last) : first = last :=
  hsame first (List.mem_of_find?_eq_some hfirst) last
    (List.mem_reverse.mp (List.mem_of_find?_eq_some hlast)) (name_of_find? hfirst)
    (name_of_find? hlast)

/-! ## Names without an instance -/

section

variable {settings : Extraction} {classes : List Classifier} {i : Instantiation} {name : String}

namespace Instantiation

/-- The names with an instance are those that have an entity. -/
theorem entityNamed_eq_none_iff (h : instantiate settings classes = .ok i) :
    i.entityNamed name = none ↔ ¬ (Declared.ofList classes).HasEntity settings name := by
  obtain ⟨-, hmade, -, hentityOf, -⟩ := exists_made_of_instantiate h
  rw [entityNamed, getElem?_eq_none_iff, hentityOf, hmade.mem_entityOf]

/-- No issue is about a name without an instance. -/
theorem className_ne_of_mem_issues (h : instantiate settings classes = .ok i)
    (hnone : i.entityNamed name = none) {x : Issue} (hx : x ∈ i.issues) : x.className ≠ name := by
  rintro rfl
  exact (entityNamed_eq_none_iff h).mp hnone (.inl (exists_instance_of_mem_issues h hx))

/-- The graph of an instantiation breaks no rule: all findings on it are issues. -/
theorem broken_ofInstantiation (h : instantiate settings classes = .ok i) :
    (Findings.ofInstantiation i).broken = [] := by
  obtain ⟨r, verdicts, -, hadds, -⟩ := exists_adds_of_instantiate h
  exact hadds.wellFormed.sound.inconsistencies_eq_nil

end Instantiation

/-- A name has no entity when its last class has no instances, or when it has neither a class nor an
outside type. -/
theorem not_hasEntity_iff : ¬ (Declared.ofList classes).HasEntity settings name ↔
    (∃ last, (classes.reverse.find? fun c => c.name = name) = some last ∧
      last.isInstantiable = false) ∨
    (classes.reverse.find? fun c => c.name = name) = none ∧
      name ∉ (Declared.ofList classes).outside settings := by
  have hd : (Declared.ofList classes).Named := Declared.named_ofList classes
  rw [Declared.HasEntity, ← hd.mem_outside, not_or, Declared.getElem?_ofList]
  cases hlast : classes.reverse.find? fun c => c.name = name with
  | none => simp
  | some last =>
    -- An outside type has no class.
    have hdeclared : name ∈ Declared.ofList classes :=
      Ordered.mem_of_getElem? ((Declared.getElem?_ofList classes name).trans hlast)
    have houter : name ∉ (Declared.ofList classes).outside settings := fun hmem =>
      hd.notMem_of_mem_outside name hmem hdeclared
    simp [houter]

namespace Impact

/-- A class without an impact has no instance, and the answer goes by the classes. -/
theorem ofClass_eq_error_iff_whyNone {e : NoImpact} : ofClass classes i name = .error e ↔
    i.entityNamed name = none ∧ whyNone classes name = e := by
  unfold ofClass
  cases i.entityNamed name <;> simp

/-- The answer on a name goes by the first class of it. -/
theorem whyNone_of_find? {first : Classifier}
    (hfirst : (classes.find? fun c => c.name = name) = some first) :
    whyNone classes name = if first.isInstantiable then .notInstantiated name
      else .notInstantiable name first.nature := by
  unfold whyNone
  rw [show (classes.find? fun c => c.name == name) = some first from hfirst]

/-- Nothing is known of a name that no class has. -/
theorem whyNone_of_find?_eq_none (hnone : (classes.find? fun c => c.name = name) = none) :
    whyNone classes name = .unknown name := by
  unfold whyNone
  rw [show (classes.find? fun c => c.name == name) = none from hnone]

/-- Why there is no impact of a class. -/
theorem ofClass_eq_error_iff (h : instantiate settings classes = .ok i) {e : NoImpact} :
    ofClass classes i name = .error e ↔ Refused settings classes name e := by
  rw [ofClass_eq_error_iff_whyNone, Instantiation.entityNamed_eq_none_iff h, not_hasEntity_iff]
  constructor
  · rintro ⟨⟨last, hlast, hlacks⟩ | ⟨hnone, houter⟩, rfl⟩
    · have hsome : (classes.find? fun c => c.name = name) ≠ none := fun hnone => by
        simp [find?_eq_none_iff_reverse.mp hnone] at hlast
      obtain ⟨first, hfirst⟩ := Option.ne_none_iff_exists'.mp hsome
      rw [whyNone_of_find? hfirst]
      split_ifs with hinstances
      · exact .notInstantiated hfirst hlast hinstances hlacks
      · exact .notInstantiable hfirst hlast (Bool.eq_false_of_not_eq_true hinstances) hlacks
    · have hnone := find?_eq_none_iff_reverse.mpr hnone
      rw [whyNone_of_find?_eq_none hnone]
      exact .unknown (by simpa using hnone) houter
  · intro hrefused
    cases hrefused with
    | notInstantiable hfirst hlast hinstances hlacks =>
      exact ⟨.inl ⟨_, hlast, hlacks⟩, by rw [whyNone_of_find? hfirst, hinstances]; rfl⟩
    | notInstantiated hfirst hlast hinstances hlacks =>
      exact ⟨.inl ⟨_, hlast, hlacks⟩, by rw [whyNone_of_find? hfirst, hinstances]; rfl⟩
    | unknown hnone houter =>
      have hnone : (classes.find? fun c => c.name = name) = none := by simpa using hnone
      exact ⟨.inr ⟨find?_eq_none_iff_reverse.mp hnone, houter⟩, whyNone_of_find?_eq_none hnone⟩

end Impact

end

/-! ## The main result -/

/-- The answers on names without an instance. What is said goes by the first class of the name and
the one that is instantiated. A check has no finding about the name, whatever is said of it, and
none besides issues. When all classes of the name agree, it is not said that the class could not be
instantiated, and what is said of its nature holds of the one that is instantiated. -/
theorem instantiate_whyNone {settings : Extraction} {classes : List Classifier}
    {i : Instantiation} (h : instantiate settings classes = .ok i) :
    (∀ name : String, (Declared.ofList classes)[name]? =
      classes.reverse.find? fun c => c.name = name) ∧
    (∀ name e, Impact.ofClass classes i name = .error e ↔ Refused settings classes name e) ∧
    (∀ name e, Impact.ofClass classes i name = .error e →
      ∀ x ∈ (Findings.ofInstantiation i).issues, x.className ≠ name) ∧
    (Findings.ofInstantiation i).broken = [] ∧
    (∀ name, (∀ c ∈ classes, ∀ c' ∈ classes, c.name = name → c'.name = name → c = c') →
      Impact.ofClass classes i name ≠ .error (.notInstantiated name) ∧
      ∀ nature, Impact.ofClass classes i name = .error (.notInstantiable name nature) →
        ∃ c, (Declared.ofList classes)[name]? = some c ∧ c.isInstantiable = false ∧
          c.HasNature nature) ∧
    ∀ (w : Workspace) (all : Settings) (selection : Command.Selection)
      (files : List (String × String)), all.extraction = settings →
        selection.files w = .ok files → Source.extractAll settings files = classes →
          (Command.runCheck w all selection).output =
            Command.textOfLines (Findings.ofInstantiation i).lines ∧
          ∀ name e, Impact.ofClass classes i name = .error e →
            (Command.runImpact w all selection name).status = .failure ∧
            (Command.runImpact w all selection name).messages =
              s!"Parsed {classes.length} classes from {files.length} files\n" ++
                Failure.report { message := e.message } := by
  have hrefused : ∀ name e, Impact.ofClass classes i name = .error e ↔
      Refused settings classes name e := fun name e => Impact.ofClass_eq_error_iff h
  refine ⟨Declared.getElem?_ofList classes, hrefused, fun name e hnone x hx => ?_,
    Instantiation.broken_ofInstantiation h, fun name hsame => ⟨fun hnone => ?_,
      fun nature hnone => ?_⟩, ?_⟩
  · exact Instantiation.className_ne_of_mem_issues h
      (Impact.ofClass_eq_error_iff_whyNone.mp hnone).1 hx
  · cases (hrefused _ _).mp hnone with
    | notInstantiated hfirst hlast hinstances hlacks =>
      rw [eq_of_find? hsame hfirst hlast, hlacks] at hinstances
      cases hinstances
  · cases (hrefused _ _).mp hnone with
    | notInstantiable hfirst hlast hinstances hlacks =>
      refine ⟨_, (Declared.getElem?_ofList classes name).trans hlast, hlacks, ?_⟩
      rw [← eq_of_find? hsame hfirst hlast]
      exact Classifier.hasNature_nature hinstances
  · rintro w all selection files rfl hfiles hclasses
    exact ⟨Command.output_runCheck hfiles (hclasses.symm ▸ h), fun name e hnone =>
      Command.runImpact_of_error hfiles hclasses h hnone⟩

/-- The source of a fleet and of toys, some of which have the names of those of the fleet. -/
def fleetSource : String := "class Fleet { class Ship {} interface Boat {} } " ++
  "class Toys { interface Ship {} abstract class Boat {} interface Kite {} }"

/-- A file with the fleet and the toys. -/
def fleetFile : Workspace where
  root := .folder [("Fleet.java", .file fleetSource)]
  currentPath := "/fleet"

/-- The fleet and the toys. -/
def fleetAndToys : List Classifier :=
  let declared (name : String) (kind : ClassifierKind) : Classifier :=
    { name, kind, visibility := .toPackage }
  [declared "Fleet" .plain, declared "Ship" .plain, declared "Boat" .interface,
    declared "Toys" .plain, declared "Ship" .interface,
    { declared "Boat" .plain with isAbstract := true }, declared "Kite" .interface]

/-- There is one kite, so that what is said of it holds. -/
theorem whyNone_kite :
    (∃ i, instantiate {} fleetAndToys = .ok i) ∧
    (∀ c ∈ fleetAndToys, ∀ c' ∈ fleetAndToys, c.name = "Kite" → c'.name = "Kite" → c = c') ∧
    (∃ c, (Declared.ofList fleetAndToys)["Kite"]? = some c ∧ c.isInstantiable = false ∧
      c.HasNature "an interface") ∧
    (Command.runImpact fleetFile {} { path := "Fleet.java" } "Kite").messages =
      "Parsed 7 classes from 1 files\nError: Kite is an interface and has no instances\n" := by
  have hfiles : Command.Selection.files { path := "Fleet.java" } fleetFile =
      .ok [("Fleet.java", fleetSource)] := by decide +kernel
  have hclasses : Source.extractAll {} [("Fleet.java", fleetSource)] = fleetAndToys := by
    decide +kernel
  have hsame : ∀ c ∈ fleetAndToys, ∀ c' ∈ fleetAndToys,
      c.name = "Kite" → c'.name = "Kite" → c = c' := by decide
  obtain ⟨i, hi, hnone⟩ : ∃ i, instantiate {} fleetAndToys = .ok i ∧
      Impact.ofClass fleetAndToys i "Kite" =
        .error (.notInstantiable "Kite" "an interface") := ⟨_, rfl, rfl⟩
  obtain ⟨-, -, -, -, hagree, hcommand⟩ := instantiate_whyNone hi
  refine ⟨⟨i, hi⟩, hsame, (hagree "Kite" hsame).2 _ hnone, ?_⟩
  rw [((hcommand fleetFile {} _ _ rfl hfiles hclasses).2 "Kite" _ hnone).2]
  decide +kernel

/-- The ship of the fleet has instances and the toy ship does not, so that the ship could not be
instantiated, and a check finds nothing. The boat is said to be an interface, as that of the fleet
is, although the toy boat is instantiated, which is an abstract class. -/
theorem whyNone_ship_boat : ∃ i boat, instantiate {} fleetAndToys = .ok i ∧
    Impact.ofClass fleetAndToys i "Ship" = .error (.notInstantiated "Ship") ∧
    (Findings.ofInstantiation i).count = 0 ∧
    Impact.ofClass fleetAndToys i "Boat" = .error (.notInstantiable "Boat" "an interface") ∧
    (Declared.ofList fleetAndToys)["Boat"]? = some boat ∧ boat.kind = .plain ∧
    ¬ boat.HasNature "an interface" := by
  refine ⟨_, _, rfl, rfl, by decide +kernel, rfl, rfl, rfl, fun hnature => ?_⟩
  generalize hname : "an interface" = nature at hnature
  cases hnature with
  | interface hkind => cases hkind
  | annotationType => exact absurd hname (by decide)
  | abstract => exact absurd hname (by decide)

end ClassGraph
