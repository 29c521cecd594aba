import ClassGraph.Diagram.Aml
import ClassGraph.Diagram.Dot
import ClassGraph.Diagram.PlantUml
import ClassGraph.Files.Path
import ClassGraph.Instantiation.Basic
import ClassGraph.Json.Printer
import ClassGraph.Model.Json

/-!
# Formats of a diagram

The four forms in which class models are written, and `render`, which writes them. Only the DOT
form can fail: it draws the graph of the classes, which a cycle of superclasses does not have.
-/

namespace ClassGraph.Diagram

/-- A form of output. -/
inductive Format where
  /-- A PlantUML class diagram. -/
  | puml
  /-- Aetheris Modeling Language. -/
  | aml
  /-- The class models as JSON. -/
  | json
  /-- The entity graph in DOT. -/
  | dot
deriving DecidableEq, Repr, Inhabited

namespace Format

/-- Every format. -/
def all : List Format := [.puml, .aml, .json, .dot]

/-- The name of a format, which is also the extension of its files. -/
def name : Format → String
  | .puml => "puml"
  | .aml => "aml"
  | .json => "json"
  | .dot => "dot"

/-- The format that a name stands for, capitals or not. -/
def parse? (name : String) : Option Format :=
  match Text.toLowerAscii name with
  | "puml" | "plantuml" | "uml" => some .puml
  | "aml" => some .aml
  | "json" => some .json
  | "dot" | "gv" | "graphviz" => some .dot
  | _ => none

/-- What is said of a name that stands for no format. -/
def unknownMessage (name : String) : String :=
  let known := ", ".intercalate (all.map Format.name)
  s!"unknown format '{Text.toLowerAscii name}' (expected one of: {known})"

/-- The format of a file, by the extension of its path. -/
def ofPath? (path : String) : Option Format := do
  parse? (← Path.extension? path)

/-- A format is found by its name. -/
theorem parse?_name (format : Format) : parse? format.name = some format := by
  cases format <;> decide

end Format

/-- The classes in a format. -/
def render (settings : Settings) (format : Format) (classes : List Classifier) :
    Except Failure String :=
  match format with
  | .puml => .ok (PlantUml.render settings.layout classes)
  | .aml => .ok (Aml.render classes)
  | .json => .ok ((Json.array (classes.map Classifier.toJson)).pretty ++ "\n")
  | .dot => do
    let instances ← failWithin "failed to build entity graph"
      (instantiate settings.extraction classes)
    return Dot.render instances.graph

end ClassGraph.Diagram
