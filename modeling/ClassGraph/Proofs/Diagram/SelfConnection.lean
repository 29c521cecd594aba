import ClassGraph.Proofs.Diagram.Blocks
import ClassGraph.Proofs.Diagram.Connectors
import ClassGraph.Source.Extract

/-!
# Classes that are joined to themselves

A class has no relation to itself in a diagram, whatever its members are: its targets and what it
depends on are other classes. Its supertypes are drawn as it names them. So a class is joined to
itself when one of its supertypes has its own simple name (`NamesItself`), as one of another package
may have, and not otherwise (`drawn_self_iff`). Both notations show just that
(`render_selfConnections`).
-/

namespace ClassGraph.Diagram

/-- A class names itself as a supertype. -/
inductive NamesItself (c : Classifier) : Connector → Prop
  /-- Its superclass has its name. -/
  | superclass : c.superclass = some c.name → NamesItself c .inheritance
  /-- One of its interfaces has its name. -/
  | interface : c.name ∈ c.interfaces → NamesItself c .realization

/-- What a class draws to its own name is that it names itself. -/
theorem draws_self_iff {c : Classifier} {connector : Connector} :
    Draws c connector c.name ↔ NamesItself c connector := by
  constructor
  · intro h
    cases h with
    | superclass hsuper => exact .superclass hsuper
    | interface hrole => exact .interface hrole
    | structural _ hne => exact absurd rfl hne
    | dependency hne => exact absurd rfl hne
  · intro h
    cases h with
    | superclass hsuper => exact .superclass hsuper
    | interface hrole => exact .interface hrole

variable {classes : List Classifier}

/-- A name is joined to itself when a class of this name names itself. -/
theorem drawn_self_iff {name : String} {connector : Connector} :
    Drawn classes ⟨name, connector, name⟩ ↔
      ∃ c ∈ classes, c.name = name ∧ NamesItself c connector := by
  refine exists_congr fun c => and_congr_right fun _ => and_congr_right fun hname => ?_
  obtain rfl : c.name = name := hname
  exact draws_self_iff

/-- No relation joins a name to itself. -/
theorem not_drawn_self_relation {name : String} {kind : RelationKind} :
    ¬ Drawn classes ⟨name, .relation kind, name⟩ := by
  rw [drawn_self_iff]
  rintro ⟨_, -, -, hnames⟩
  cases hnames

/-- The lines of connectors are lines of a diagram. -/
theorem PlantUml.mem_documentLines (layout : Layout) {line : String}
    (h : line ∈ connectorLines PlantUml.connectorLine classes) :
    line ∈ PlantUml.documentLines layout classes := by
  rw [documentLines_eq_arranged, closingLines, if_neg (by simpa using List.ne_nil_of_mem h)]
  exact List.mem_append_right _ (List.mem_append_left _ (List.mem_append_right _ h))

/-- The lines of connectors are lines of a document. -/
theorem Aml.mem_documentLines {line : String}
    (h : line ∈ connectorLines Aml.connectorLine classes) : line ∈ Aml.documentLines classes := by
  rw [documentLines_eq_arranged]
  exact List.mem_append_right _ (List.mem_cons_of_mem _ h)

/-- When all names are words, a connection can be read from the lines when it is drawn. -/
theorem Readable.exists_read_iff {write : String → Connector → String → String}
    {read? : String → Option Connection} (hr : Readable write read?)
    (h : ∀ c ∈ classes, Worded c) {x : Connection} :
    (∃ line ∈ connectorLines write classes, read? line = some x) ↔ Drawn classes x := by
  constructor
  · rintro ⟨line, hline, hx⟩
    obtain ⟨y, hy, rfl⟩ := mem_connectorLines.mp hline
    rw [hr.read_of_drawn h hy] at hx
    exact Option.some.inj hx ▸ hy
  · exact fun hx => ⟨_, mem_connectorLines.mpr ⟨x, hx, rfl⟩, hr.read_of_drawn h hx⟩

/-- The lines of connectors close a diagram and a document, and each is that of a connection that is
drawn. Of these, just those join a name to itself by which a class of the name calls itself its
superclass or its interface; no relation does. When all names are words, this is also what can be
read from the lines. -/
theorem render_selfConnections (layout : Layout) (classes : List Classifier) :
    let diagram := connectorLines PlantUml.connectorLine classes
    let document := connectorLines Aml.connectorLine classes
    (PlantUml.documentLines layout classes =
      PlantUml.openingLines layout ++
        PlantUml.layoutLines layout classes.length (PlantUml.packages classes).length ++
        PlantUml.blockLines (arranged (PlantUml.packages classes) classes) ++
        (if diagram.isEmpty then [] else ["", "' Relationships"] ++ diagram) ++ ["@enduml"]) ∧
    (Aml.documentLines classes =
      Aml.blockLines (arranged (Aml.namespaces classes) classes) ++ ["// Relationships"] ++
        document) ∧
    (∀ line ∈ diagram, ∃ x, Drawn classes x ∧
      PlantUml.connectorLine x.source x.connector x.target = line) ∧
    (∀ line ∈ document, ∃ x, Drawn classes x ∧
      Aml.connectorLine x.source x.connector x.target = line) ∧
    (∀ name connector, Drawn classes ⟨name, connector, name⟩ ↔
      ∃ c ∈ classes, c.name = name ∧ NamesItself c connector) ∧
    (∀ name kind, ¬ Drawn classes ⟨name, .relation kind, name⟩) ∧
    ((∀ c ∈ classes, Worded c) → ∀ name connector,
      ((∃ line ∈ PlantUml.shownConnectors (PlantUml.render layout classes),
          PlantUml.connection? line = some ⟨name, connector, name⟩) ↔
        ∃ c ∈ classes, c.name = name ∧ NamesItself c connector) ∧
      ((∃ line ∈ Aml.shownConnectors (Aml.render classes),
          Aml.connection? line = some ⟨name, connector, name⟩) ↔
        ∃ c ∈ classes, c.name = name ∧ NamesItself c connector)) := by
  intro diagram document
  refine ⟨?_, ?_, fun line hline => mem_connectorLines.mp hline,
    fun line hline => mem_connectorLines.mp hline, fun _ _ => drawn_self_iff,
    fun _ _ => not_drawn_self_relation, fun h name connector => ⟨?_, ?_⟩⟩
  · rw [PlantUml.documentLines_eq_arranged, PlantUml.closingLines, ← List.append_assoc]
  · rw [Aml.documentLines_eq_arranged, Aml.closingLines, List.append_assoc]
    rfl
  · rw [PlantUml.shownConnectors_render layout h, PlantUml.readable.exists_read_iff h,
      drawn_self_iff]
  · rw [Aml.shownConnectors_render h, Aml.readable.exists_read_iff h, drawn_self_iff]

/-- A node that extends a node. -/
def node : Classifier := { name := "Node", kind := .plain, superclass := some "Node" }

/-- All names that the node draws are words. -/
theorem worded_node : Worded node where
  name := by decide
  superclass := by
    rintro _ ⟨⟩
    decide
  interfaces := by decide
  targets := by decide

/-- The line in which the node is its own superclass can be read from both texts, and no line says
that it implements itself. -/
theorem render_node :
    (∀ c ∈ [node], Worded c) ∧
    (∃ line ∈ PlantUml.shownConnectors (PlantUml.render {} [node]),
      PlantUml.connection? line = some ⟨"Node", .inheritance, "Node"⟩) ∧
    (∃ line ∈ Aml.shownConnectors (Aml.render [node]),
      Aml.connection? line = some ⟨"Node", .inheritance, "Node"⟩) ∧
    ¬ ∃ line ∈ Aml.shownConnectors (Aml.render [node]),
      Aml.connection? line = some ⟨"Node", .realization, "Node"⟩ := by
  have hworded : ∀ c ∈ [node], Worded c := List.forall_mem_singleton.mpr worded_node
  obtain ⟨-, -, -, -, -, -, hshown⟩ := render_selfConnections {} [node]
  have hsuper : ∃ c ∈ [node], c.name = "Node" ∧ NamesItself c .inheritance :=
    ⟨node, List.mem_singleton_self _, rfl, .superclass rfl⟩
  refine ⟨hworded, (hshown hworded "Node" .inheritance).1.mpr hsuper,
    (hshown hworded "Node" .inheritance).2.mpr hsuper, fun hline => ?_⟩
  obtain ⟨c, hc, -, hnames⟩ := (hshown hworded "Node" .realization).2.mp hline
  obtain rfl := List.mem_singleton.mp hc
  cases hnames with
  | interface hmem => exact List.not_mem_nil hmem

/-- The classes of a file with two that are named as a supertype of another package is. -/
def namesakes : List Classifier := Source.extractAll {} [("Node.java",
  "class Node extends lib.Node \x7b\x7d class List implements java.util.List \x7b\x7d")]

/-- The node of a library has the name of the class that extends it, and so both notations join this
class to itself; likewise with the interface. -/
theorem documentLines_namesakes :
    namesakes.map (fun c => (c.name, c.superclass, c.interfaces)) =
      [("Node", some "Node", []), ("List", none, ["List"])] ∧
    "Node <|-- Node" ∈ PlantUml.documentLines {} namesakes ∧
    "List <|.. List" ∈ PlantUml.documentLines {} namesakes ∧
    "Node --|> Node" ∈ Aml.documentLines namesakes ∧
    "List ..|> List" ∈ Aml.documentLines namesakes := by
  have hdiagram : connectorLines PlantUml.connectorLine namesakes =
      ["List <|.. List", "Node <|-- Node"] := by decide +kernel
  have hdocument : connectorLines Aml.connectorLine namesakes =
      ["List ..|> List", "Node --|> Node"] := by decide +kernel
  refine ⟨by decide +kernel, PlantUml.mem_documentLines {} ?_, PlantUml.mem_documentLines {} ?_,
    Aml.mem_documentLines ?_, Aml.mem_documentLines ?_⟩
  · exact hdiagram ▸ List.mem_cons_of_mem _ (List.mem_singleton_self _)
  · exact hdiagram ▸ List.mem_cons_self
  · exact hdocument ▸ List.mem_cons_of_mem _ (List.mem_singleton_self _)
  · exact hdocument ▸ List.mem_cons_self

end ClassGraph.Diagram
