import ClassGraph.Diagram.Connector
import ClassGraph.Keyed

/-!
# Aetheris Modeling Language

Namespaces stand in the order of their names, each with its classes by name, then the classes
without a namespace, then the connectors.
-/

namespace ClassGraph.Diagram.Aml

/-- The line of a connector. -/
def connectorLine (source : String) (connector : Connector) (target : String) : String :=
  match connector with
  | .inheritance => s!"{source} --|> {target}"
  | .realization => s!"{source} ..|> {target}"
  | .relation kind =>
    let arrow := match kind with
      | .composition => "*--"
      | .aggregation => "o--"
      | .association => "->"
      | .dependency => "..>"
    s!"{source} {arrow} {target} [type: {kind.name}]"

/-- What follows the type of a member. -/
def memberEnd (visibility : Visibility) (isStatic : Bool) : String :=
  s!" [{visibility.symbol}]" ++ if isStatic then " static" else ""

/-- The line of a field; a constant of an enum shows its name only. -/
def fieldLine (f : Field) : String :=
  if f.typeName.isEmpty then f.name
  else s!"{f.name}: {f.typeName}" ++ memberEnd f.visibility f.isStatic

/-- The line of a method. -/
def methodLine (m : Method) : String :=
  let parameters := ", ".intercalate (m.parameters.map (·.typeName))
  s!"{m.name}({parameters}): {m.returnType}" ++ memberEnd m.visibility m.isStatic

/-- The lines of a class, each behind `indent`. -/
def classLines (indent : String) (c : Classifier) : List String :=
  let mark := if c.isAbstract && c.kind == .plain then "abstract " else ""
  [indent ++ mark ++ s!"{c.kind.name} {c.name} " ++ "\x7b"] ++
    (c.fields.map fun f => indent ++ "    " ++ fieldLine f) ++
    (c.methods.map fun m => indent ++ "    " ++ methodLine m) ++
    [indent ++ "\x7d"]

/-- Namespaces with their classes and the classes without a namespace, with one more class at the
end of its namespace or of those without one. -/
def place (groups : Std.ExtTreeMap String (List Classifier) × List Classifier) (c : Classifier) :
    Std.ExtTreeMap String (List Classifier) × List Classifier :=
  match c.package with
  | none => (groups.1, groups.2 ++ [c])
  | some name => (Keyed.push name c groups.1, groups.2)

/-- The lines of a document. -/
def documentLines (classes : List Classifier) : List String :=
  let (namespaces, loose) := classes.foldl place (∅, [])
  let blocks := namespaces.toList.flatMap fun (name, members) =>
    ["namespace " ++ name ++ " \x7b"] ++ (byName members).flatMap (classLines "    ") ++
      ["\x7d", ""]
  let looseBlocks := (byName loose).flatMap fun c => classLines "" c ++ [""]
  blocks ++ looseBlocks ++ ["// Relationships"] ++ connectorLines connectorLine classes

/-- The document of the classes. -/
def render (classes : List Classifier) : String :=
  String.join ((documentLines classes).map (· ++ "\n"))

end ClassGraph.Diagram.Aml
