import ClassGraph.Diagram.Format
import ClassGraph.Proofs.Diagram.Blocks
import ClassGraph.Proofs.Instantiation.Numbered
import ClassGraph.Source.Extract

/-!
# Diagrams of classes in another order

Files in another order give the same classes in another order (`Source.perm_extractAll`). A document
shows nothing of it: the classes of a package, which have different names, are sorted in one way
only (`members_eq_of_perm`), and the namespaces and the connectors are sets in their order
(`Aml.namespaces_eq_of_perm`, `connectorLines_eq_of_perm`). A PlantUML diagram has its packages in
the order in which they are mentioned, and shows that and nothing else of it. A DOT drawing is that
of an instantiation, for which the last class of each name counts; so classes of different names
have one drawing (`render_reordered`).
-/

namespace ClassGraph

/-- The classes of files in another order are the classes in another order. -/
theorem Source.perm_extractAll (settings : Extraction) {files files' : List (String × String)}
    (h : files.Perm files') : (extractAll settings files).Perm (extractAll settings files') :=
  h.flatMap_right _

namespace Diagram

section

variable {classes classes' : List Classifier} (hperm : classes.Perm classes')

include hperm

/-! ## What sorting makes alike -/

/-- Classes of different names are sorted alike in every order. -/
theorem byName_eq_of_perm (hnames : (classes.map (·.name)).Nodup) :
    byName classes = byName classes' := by
  have hsorted : (byName classes).Perm (byName classes') :=
    ((perm_byName classes).trans hperm).trans (perm_byName classes').symm
  refine hsorted.eq_of_pairwise (fun c c' hc hc' hle hle' => ?_) (ascending_byName classes)
    (ascending_byName classes')
  -- Two classes that may stand in front of one another have the same name.
  have hc : c ∈ classes := (perm_byName classes).mem_iff.mp hc
  have hc' : c' ∈ classes := hperm.mem_iff.mpr ((perm_byName classes').mem_iff.mp hc')
  exact List.inj_on_of_nodup_map hnames hc hc' (le_antisymm hle hle')

/-- The classes of one package, or those without one, are listed alike in every order. -/
theorem members_eq_of_perm (hnodup : (classes.map fun c => (c.package, c.name)).Nodup)
    (package : Option String) :
    byName (classes.filter fun c => c.package == package) =
      byName (classes'.filter fun c => c.package == package) := by
  refine byName_eq_of_perm (hperm.filter _) ?_
  refine List.Nodup.of_map (fun name => (package, name)) ?_
  have hpackage : ((classes.filter fun c => c.package == package).map (·.name)).map
      (fun name => (package, name)) =
        (classes.filter fun c => c.package == package).map fun c => (c.package, c.name) := by
    rw [List.map_map]
    refine List.map_congr_left fun c hc => ?_
    rw [Function.comp_apply, beq_iff_eq.mp (List.mem_filter.mp hc).2]
  rw [hpackage]
  exact hnodup.sublist (List.filter_sublist.map _)

/-- The connectors are written alike in every order. -/
theorem connectorLines_eq_of_perm (write : String → Connector → String → String) :
    connectorLines write classes = connectorLines write classes' := by
  unfold connectorLines
  refine congrArg Std.ExtTreeSet.toList (Std.ExtTreeSet.ext_mem fun line => ?_)
  rw [Ordered.mem_set_ofList, Ordered.mem_set_ofList]
  exact (hperm.flatMap_right _).mem_iff

/-! ## The texts -/

namespace Aml

/-- The namespaces are the same in every order. -/
theorem namespaces_eq_of_perm : namespaces classes = namespaces classes' := by
  unfold namespaces
  refine congrArg Std.ExtTreeSet.toList (Std.ExtTreeSet.ext_mem fun name => ?_)
  rw [Ordered.mem_set_ofList, Ordered.mem_set_ofList]
  exact (hperm.filterMap _).mem_iff

/-- A document is the same in every order. -/
theorem render_eq_of_perm (hnodup : (classes.map fun c => (c.package, c.name)).Nodup) :
    render classes = render classes' := by
  have hmembers := members_eq_of_perm hperm hnodup
  have harranged : arranged (namespaces classes) classes =
      arranged (namespaces classes') classes' := by
    unfold arranged
    simp only [hmembers, namespaces_eq_of_perm hperm]
  rw [render, render, documentLines_eq_arranged, documentLines_eq_arranged, harranged,
    closingLines, closingLines, connectorLines_eq_of_perm hperm]

end Aml

namespace PlantUml

/-- The packages are the same, in another order. -/
theorem packages_perm_of_perm : (packages classes).Perm (packages classes') := by
  refine (List.perm_ext_iff_of_nodup (nodup_packages classes) (nodup_packages classes')).mpr ?_
  intro package
  simp only [mem_packages, hperm.mem_iff]

/-- What stands behind the classes is the same in every order. -/
theorem closingLines_eq_of_perm : closingLines classes = closingLines classes' := by
  rw [closingLines, closingLines, connectorLines_eq_of_perm hperm]

/-- The packages of a diagram hold the same classes in every order. -/
theorem arranged_perm_of_perm (hnodup : (classes.map fun c => (c.package, c.name)).Nodup) :
    (arranged (packages classes) classes).packages.Perm
        (arranged (packages classes') classes').packages ∧
      (arranged (packages classes) classes).loose =
        (arranged (packages classes') classes').loose := by
  have hmembers := members_eq_of_perm hperm hnodup
  unfold arranged
  simp only [hmembers]
  exact ⟨(packages_perm_of_perm hperm).map _, trivial⟩

end PlantUml

end

/-! ## The main result -/

/-- No two classes have the same package and name. Then their document is the same in every order,
and so are the relations in their PlantUML diagram; the rest of the diagram differs in the order of
the packages only. When all names are different, the DOT drawing is the same, or the failure to make
it. Files in another order give such an order of their classes. -/
theorem render_reordered {classes classes' : List Classifier} (hperm : classes.Perm classes')
    (hnodup : (classes.map fun c => (c.package, c.name)).Nodup) (settings : Settings) :
    Aml.render classes = Aml.render classes' ∧
    (∃ (opening : List String) (diagram diagram' : Arrangement),
      PlantUml.render settings.layout classes = String.join
        ((opening ++ PlantUml.blockLines diagram ++
          PlantUml.closingLines classes).map (· ++ "\n")) ∧
      PlantUml.render settings.layout classes' = String.join
        ((opening ++ PlantUml.blockLines diagram' ++
          PlantUml.closingLines classes').map (· ++ "\n")) ∧
      opening = PlantUml.openingLines settings.layout ++
        PlantUml.layoutLines settings.layout classes.length (PlantUml.packages classes).length ∧
      diagram.Holds classes ∧ diagram'.Holds classes' ∧
      diagram.packages.Perm diagram'.packages ∧ diagram.loose = diagram'.loose) ∧
    PlantUml.closingLines classes = PlantUml.closingLines classes' ∧
    ((classes.map (·.name)).Nodup →
      render settings .dot classes = render settings .dot classes') ∧
    ∀ files files', files.Perm files' →
      (Source.extractAll settings.extraction files).Perm
        (Source.extractAll settings.extraction files') := by
  obtain ⟨hpackages, hloose⟩ := PlantUml.arranged_perm_of_perm hperm hnodup
  have hdiagram (classes : List Classifier) :
      (arranged (PlantUml.packages classes) classes).Holds classes :=
    holds_arranged (PlantUml.nodup_packages classes) fun _ => PlantUml.mem_packages
  refine ⟨Aml.render_eq_of_perm hperm hnodup,
    ⟨_, _, _, ?_, ?_, rfl, hdiagram classes, hdiagram classes', hpackages, hloose⟩,
    PlantUml.closingLines_eq_of_perm hperm, fun hnames => ?_,
    fun files files' => Source.perm_extractAll settings.extraction⟩
  · rw [PlantUml.render, PlantUml.documentLines_eq_arranged]
  · rw [PlantUml.render, PlantUml.documentLines_eq_arranged, hperm.length_eq,
      (PlantUml.packages_perm_of_perm hperm).length_eq]
  · have hinstances : instantiate settings.extraction classes =
        instantiate settings.extraction classes' :=
      instantiate_congr (Declared.ofList_congr (find?_eq_of_perm hperm hnames)) _
    change (failWithin _ (instantiate _ classes) >>= _) =
      (failWithin _ (instantiate _ classes') >>= _)
    rw [hinstances]

/-- A ship of a fleet that docks at a pier. -/
def fleetShip : Classifier where
  name := "Ship"
  kind := .plain
  superclass := some "Vessel"
  package := some "fleet"
  relations := [{ kind := .association, target := "Pier", via := some "dock" }]

/-- A toy ship. -/
def toyShip : Classifier := { name := "Ship", kind := .plain, package := some "toys" }

/-- Two ships of one name, in different packages, and a pier have one document. The ship of the
fleet and the pier have different names, and so one drawing. -/
theorem render_ships :
    [toyShip, pier, fleetShip].Perm [fleetShip, toyShip, pier] ∧
    ([toyShip, pier, fleetShip].map fun c => (c.package, c.name)).Nodup ∧
    Aml.render [toyShip, pier, fleetShip] = Aml.render [fleetShip, toyShip, pier] ∧
    PlantUml.closingLines [toyShip, pier, fleetShip] =
      ["", "' Relationships", "Ship --> Pier", "Vessel <|-- Ship", "@enduml"] ∧
    PlantUml.closingLines [fleetShip, toyShip, pier] =
      ["", "' Relationships", "Ship --> Pier", "Vessel <|-- Ship", "@enduml"] ∧
    render {} .dot [pier, fleetShip] = render {} .dot [fleetShip, pier] := by
  have hperm : [toyShip, pier, fleetShip].Perm [fleetShip, toyShip, pier] := by decide
  have hnodup : ([toyShip, pier, fleetShip].map fun c => (c.package, c.name)).Nodup := by decide
  have hclosing : PlantUml.closingLines [toyShip, pier, fleetShip] =
      ["", "' Relationships", "Ship --> Pier", "Vessel <|-- Ship", "@enduml"] := by decide +kernel
  obtain ⟨haml, -, hpuml, -, -⟩ := render_reordered hperm hnodup {}
  obtain ⟨-, -, -, hdot, -⟩ := render_reordered
    (List.Perm.swap fleetShip pier []) (by decide) {}
  exact ⟨hperm, hnodup, haml, hclosing, hpuml ▸ hclosing, hdot (by decide)⟩

end Diagram

end ClassGraph
