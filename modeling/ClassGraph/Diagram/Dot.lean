import ClassGraph.Graph.Basic

/-!
# Entity graphs in DOT

A node for each entity, with its type and its roles, and an edge for each edge, drawn by its kind.
-/

namespace ClassGraph.Diagram.Dot

/-- A text with every occurrence of a character replaced. -/
def replaced (old : Char) (new s : List Char) : List Char :=
  s.flatMap fun c => if c = old then new else [c]

/-- A text as it stands between quotes: first each backslash is written twice, then a backslash is
put in front of each quote. -/
def escaped (s : String) : String :=
  String.ofList (replaced '"' ['\\', '"'] (replaced '\\' ['\\', '\\'] s.toList))

/-- A text between quotes. -/
def quoted (s : String) : String := "\"" ++ s ++ "\""

/-- How an edge is drawn. -/
def style : RelationKind → String
  | .composition => "dir=back, arrowtail=diamond, style=solid"
  | .aggregation => "dir=back, arrowtail=odiamond, style=solid"
  | .association => "arrowhead=vee, style=solid"
  | .dependency => "arrowhead=vee, style=dashed"

/-- The label of a node: the type, and on a line of their own the roles. -/
def nodeLabel (e : Entity) : String :=
  let roles := e.roles.toList
  escaped e.typeTag ++
    if roles.isEmpty then "" else "\\n«" ++ escaped (", ".intercalate roles) ++ "»"

/-- The line of a node. -/
def nodeLine (e : Entity) : String :=
  "  " ++ quoted e.id.text ++ " [label=" ++ quoted (nodeLabel e) ++ "];"

/-- The line of an edge. -/
def edgeLine (e : Edge) : String :=
  "  " ++ quoted e.source.text ++ " -> " ++ quoted e.target.text ++ " [" ++ style e.kind ++
    (match e.label with
      | none => ""
      | some label => ", label=" ++ quoted (escaped label)) ++ "];"

/-- The lines of a drawing. -/
def documentLines (g : EntityGraph) : List String :=
  ["digraph relgraph \x7b", "  rankdir=LR;", "  node [shape=box, fontsize=10];", ""] ++
    (g.entities.toList.map fun (_, e) => nodeLine e) ++ [""] ++
    (g.edges.toList.map fun (_, e) => edgeLine e) ++ ["\x7d"]

/-- The drawing of a graph. -/
def render (g : EntityGraph) : String := String.join ((documentLines g).map (· ++ "\n"))

end ClassGraph.Diagram.Dot
