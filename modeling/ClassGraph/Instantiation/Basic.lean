import ClassGraph.Failure
import ClassGraph.Graph.Mutation
import ClassGraph.Instantiation.Declared
import ClassGraph.Settings

/-!
# The graph of class models

Every class with instances becomes one entity, and its relations become edges. What the classes
violate (an operation left unbound, a part with two owners, a cycle of owners, two references of
one name) is collected as an issue, and all else goes on. Only a cycle of superclasses leaves
nothing to build.
-/

namespace ClassGraph

/-- Something that a class violates. -/
structure Issue where
  /-- The class. -/
  className : String
  /-- What it violates. -/
  error : GraphError
deriving DecidableEq, Repr

/-- The wording of an issue. -/
def Issue.message (i : Issue) : String := s!"{i.className}: {i.error.message}"

/-- A graph with the entity of each class and what the classes violate. -/
structure Instantiation where
  /-- The graph. -/
  graph : EntityGraph
  /-- The entity of each class that has one. -/
  entityOf : Std.ExtTreeMap String EntityId := ∅
  /-- The issues in the order in which they were met. -/
  issues : List Issue := []

namespace Instantiation

/-- One more issue. -/
def addIssue (i : Instantiation) (className : String) (error : GraphError) : Instantiation :=
  { i with issues := i.issues ++ [⟨className, error⟩] }

/-- The entity of a type, if it can be made with these roles. -/
def create (i : Instantiation) (name : String) (roles : List String) :
    Except GraphError Instantiation :=
  (i.graph.create name roles).map fun (id, graph) =>
    { i with graph, entityOf := i.entityOf.insert name id }

/-- The entity of a type, or an issue. -/
def createOrReport (i : Instantiation) (name : String) (roles : List String) : Instantiation :=
  match i.create name roles with
  | .ok i => i
  | .error e => i.addIssue name e

/-- The roles of a list that a type fulfils. -/
def fulfilled (r : Registry) (name : String) (roles : List String) : List String :=
  roles.filter fun role =>
    match r.missing name role with
    | .ok missing => missing.isEmpty
    | .error _ => false

/-- The entity of a class. A class that violates a role is reported and carries those roles only
that it fulfils. -/
def addClass (i : Instantiation) (name : String) (roles : List String) : Instantiation :=
  match i.create name roles with
  | .ok i => i
  | .error (.contract (.unbound tag role missing)) =>
    (i.addIssue name (.contract (.unbound tag role missing))).createOrReport name
      (fulfilled i.graph.registry name roles)
  | .error e => i.addIssue name e

/-- The edges that the relations of a class ask for: first its parts, then its references, then
what else it depends on. Types without an entity are passed over. -/
def linksOf (i : Instantiation) (c : Classifier) (source : EntityId) : List Link :=
  let parts := (c.targets .composition).filterMap fun name =>
    i.entityOf[name]?.map fun target => { source, target, kind := .composition : Link }
  let references := (c.relations.filter fun r =>
      r.kind == .aggregation || r.kind == .association).filterMap fun r =>
    i.entityOf[r.target]?.map fun target =>
      { source, target, kind := r.kind, label := r.via, cardinality := r.cardinality : Link }
  let uses := c.uncoveredDependencies.filterMap fun name =>
    i.entityOf[name]?.map fun target => { source, target, kind := .dependency : Link }
  parts ++ references ++ uses

/-- An edge, or an issue of the class that asks for it. -/
def addLink (className : String) (i : Instantiation) (l : Link) : Instantiation :=
  match i.graph.link l with
  | .ok (_, graph) => { i with graph }
  | .error e => i.addIssue className e

/-- The edges of a class that has an entity. -/
def addLinks (i : Instantiation) (c : Classifier) : Instantiation :=
  match i.entityOf[c.name]? with
  | none => i
  | some source => (i.linksOf c source).foldl (addLink c.name) i

/-- The entity that was made for a class. -/
def entityNamed (i : Instantiation) (name : String) : Option EntityId := i.entityOf[name]?

/-- The class that an entity was made for. -/
def nameOf (i : Instantiation) (id : EntityId) : Option String :=
  i.graph.entities[id]?.map (·.typeTag)

end Instantiation

/-- The graph of a list of classes. -/
def instantiate (settings : Extraction) (classes : List Classifier) :
    Except Failure Instantiation :=
  let declared := Declared.ofList classes
  let externals := if settings.includeExternal then declared.external else ∅
  match (declared.declarations externals).build with
  | .error e => .error ⟨"invalid type hierarchy", [e.message]⟩
  | .ok registry =>
    let instances := declared.classes.filter (·.isInstantiable)
    let withClasses := instances.foldl
      (fun i c => i.addClass c.name (declared.rolesOf c).toList) { graph := .empty registry }
    let withEntities := externals.toList.foldl (fun i name => i.createOrReport name []) withClasses
    .ok (declared.classes.foldl Instantiation.addLinks withEntities)

end ClassGraph
