import ClassGraph.Diagram.Connector
import ClassGraph.Keyed
import ClassGraph.Settings

/-!
# PlantUML class diagrams

Packages stand in the order in which classes mention them, each with its classes by name, and the
classes without a package behind them. The connectors close the diagram.
-/

namespace ClassGraph.Diagram.PlantUml

/-- The line of a connector. -/
def connectorLine (source : String) (connector : Connector) (target : String) : String :=
  match connector with
  | .inheritance => s!"{target} <|-- {source}"
  | .realization => s!"{target} <|.. {source}"
  | .relation .composition => s!"{source} *-- {target}"
  | .relation .aggregation => s!"{source} o-- {target}"
  | .relation .association => s!"{source} --> {target}"
  | .relation .dependency => s!"{source} ..> {target}"

/-- The first words of a class block. -/
def heading (c : Classifier) : String :=
  match c.kind with
  | .plain => (if c.isAbstract then "abstract class " else "class ") ++ c.name
  | .record | .object => s!"class {c.name} <<{c.kind.name}>>"
  | _ => s!"{c.kind.name} {c.name}"

/-- The mark of a static member. -/
def staticMark : String := "\x7bstatic\x7d "

/-- The mark of a method without a body. -/
def abstractMark : String := "\x7babstract\x7d "

/-- The line of a field; a constant of an enum shows its name only. -/
def fieldLine (f : Field) : String :=
  if f.typeName.isEmpty then f.name
  else
    f.visibility.symbol.toString ++ (if f.isStatic then staticMark else "") ++
      s!"{f.name} : {f.typeName}"

/-- The line of a method. -/
def methodLine (showAbstract : Bool) (m : Method) : String :=
  m.visibility.symbol.toString ++ (if m.isStatic then staticMark else "") ++
    (if showAbstract && m.isAbstract then abstractMark else "") ++
    m.name ++ "(" ++ ", ".intercalate (m.parameters.map (·.typeName)) ++ ")" ++
    (if m.returnType.isEmpty then "" else " : " ++ m.returnType)

/-- The lines of a class. -/
def classLines (c : Classifier) : List String :=
  ["    " ++ heading c ++ " \x7b"] ++
    (c.fields.map fun f => "      " ++ fieldLine f) ++
    (c.methods.map fun m => "      " ++ methodLine (c.kind != .interface) m) ++
    ["    \x7d"]

/-- Packages with their classes and the classes without a package, with one more class: at the end
of its package, which comes last when it is new, or at the end of those without one. -/
def place (groups : List (String × List Classifier) × List Classifier) (c : Classifier) :
    List (String × List Classifier) × List Classifier :=
  match c.package with
  | none => (groups.1, groups.2 ++ [c])
  | some package =>
    match groups.1.lookup package with
    | some members => (Keyed.put package (members ++ [c]) groups.1, groups.2)
    | none => (groups.1 ++ [(package, [c])], groups.2)

/-- The packages in the order in which the classes mention them, each with its classes by name, and
the classes without a package by name. -/
def grouped (classes : List Classifier) : List (String × List Classifier) × List Classifier :=
  let (packages, loose) := classes.foldl place ([], [])
  (packages.map fun (package, members) => (package, byName members), byName loose)

/-- A distance and what a large diagram adds to it. Both are words of 32 bits, and so is their sum,
which wraps around. -/
def widened (distance bonus : Nat) : Nat := (UInt32.ofNat distance + UInt32.ofNat bonus).toNat

/-- The lines that place the classes. Many packages, and crowded ones, run from left to right. -/
def layoutLines (layout : Layout) (classCount packageCount : Nat) : List String :=
  let horizontal := packageCount ≥ 4 || classCount > 5 * max packageCount 1
  let large := classCount > layout.largeThreshold
  let node := if large then widened layout.nodeSeparation layout.largeNodeBonus
    else layout.nodeSeparation
  let rank := if large then widened layout.rankSeparation layout.largeRankBonus
    else layout.rankSeparation
  [if horizontal then "left to right direction" else "top to bottom direction",
    s!"skinparam nodesep {node}",
    s!"skinparam ranksep {rank}",
    s!"skinparam linetype {layout.lineType}",
    ""]

/-- The lines in front of the classes. -/
def openingLines (layout : Layout) : List String :=
  ["@startuml" ++ layout.title.elim "" (" " ++ ·),
    "",
    "skinparam shadowing false",
    "skinparam class \x7b",
    "    BackgroundColor white",
    "    ArrowColor #263238",
    "    BorderColor #263238",
    "\x7d",
    "skinparam packageStyle rectangle"]

/-- The lines of a diagram. -/
def documentLines (layout : Layout) (classes : List Classifier) : List String :=
  let (packages, loose) := grouped classes
  let blocks := packages.flatMap fun (package, members) =>
    ["  package \"" ++ package ++ "\" \x7b"] ++ members.flatMap classLines ++ ["  \x7d", ""]
  let connectors := connectorLines connectorLine classes
  openingLines layout ++ layoutLines layout classes.length packages.length ++ blocks ++
    loose.flatMap classLines ++
    (if connectors.isEmpty then [] else ["", "' Relationships"] ++ connectors) ++ ["@enduml"]

/-- The diagram of the classes. -/
def render (layout : Layout) (classes : List Classifier) : String :=
  String.join ((documentLines layout classes).map (· ++ "\n"))

end ClassGraph.Diagram.PlantUml
