import ClassGraph.Instantiation.Basic

/-!
# Statistics

How many classes, entities, edges and roles there are.
-/

namespace ClassGraph.Statistics

/-- The lines on the classes: their number, and that of each kind that occurs. -/
def classLines (classes : List Classifier) : List String :=
  s!"Classes: {classes.length}" ::
    ClassifierKind.all.filterMap fun kind =>
      let count := classes.countP fun c => c.kind == kind
      if count = 0 then none else some s!"  {kind.name}: {count}"

/-- The lines on the entities and the edges of each kind. -/
def graphLines (g : EntityGraph) : List String :=
  [s!"Entities: {g.entities.size}", s!"Edges: {g.edges.size}"] ++
    RelationKind.all.map fun kind =>
      s!"  {kind.name}: {g.edges.toList.countP fun (_, e) => e.kind == kind}"

/-- The lines on the roles, each with the number of entities that carry it. -/
def roleLines (g : EntityGraph) : List String :=
  let roles := g.registry.roles.toList.map Prod.fst
  s!"Roles: {roles.length}" ::
    roles.map fun role =>
      s!"  {role} ({g.entities.toList.countP fun (_, e) => e.roles.contains role} entities)"

/-- The line on the issues, if there are any. -/
def issueLines (issues : List Issue) : List String :=
  if issues.isEmpty then []
  else ["", s!"Issues: {issues.length} (run \x60relgraph check\x60 for details)"]

/-- The lines of the report on some classes. -/
def lines (classes : List Classifier) (i : Instantiation) : List String :=
  classLines classes ++ [""] ++ graphLines i.graph ++ [""] ++ roleLines i.graph ++
    issueLines i.issues

end ClassGraph.Statistics
