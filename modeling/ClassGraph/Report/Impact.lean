import ClassGraph.Graph.Walk
import ClassGraph.Instantiation.Basic

/-!
# The impact of a deletion

What the deletion of the instance of a class takes with it, what the instance uses, and which edges
to it are dropped. A class without an instance has no impact.
-/

namespace ClassGraph

/-- What depends on the instance of a class, and what it depends on. -/
structure Impact where
  /-- The class. -/
  className : String
  /-- Its instance. -/
  entity : EntityId
  /-- The classes of the parts that are deleted with it. -/
  parts : List String
  /-- The classes of the entities that it uses, directly or not. -/
  uses : List String
  /-- The classes with an edge to the instance that is not a composition, each with the kind of the
  edge. -/
  referrers : List String
deriving DecidableEq, Repr

/-- Why a class has no impact. -/
inductive NoImpact where
  /-- A class of this nature has no instances. -/
  | notInstantiable (className nature : String)
  /-- The instance of the class cannot be made. -/
  | notInstantiated (className : String)
  /-- There is no such class. -/
  | unknown (className : String)
deriving DecidableEq, Repr

/-- Why a class has no impact, in words. -/
def NoImpact.message : NoImpact → String
  | .notInstantiable className nature => s!"{className} is {nature} and has no instances"
  | .notInstantiated className =>
    className ++ " could not be instantiated; run \x60relgraph check\x60"
  | .unknown className => s!"class not found: {className}"

/-- Why a class has no instances. -/
def Classifier.nature (c : Classifier) : String :=
  match c.kind with
  | .interface => "an interface"
  | .annotationType => "an annotation"
  | _ => "abstract"

namespace Impact

/-- Why a class without an entity has no impact. -/
def whyNone (classes : List Classifier) (className : String) : NoImpact :=
  match classes.find? fun c => c.name == className with
  | none => .unknown className
  | some c =>
    if c.isInstantiable then .notInstantiated className
    else .notInstantiable className c.nature

/-- The class that an entity was made for, as it is shown. -/
def shownName (i : Instantiation) (id : EntityId) : String := (i.nameOf id).getD "?"

/-- The classes of what an entity leads to over edges of some kinds, nearest first. -/
def reached (i : Instantiation) (id : EntityId) (kinds : KindSet) : List String :=
  match i.graph.reachable id kinds with
  | .ok walk => walk.rest.map (shownName i)
  | .error _ => []

/-- The impact of a class. -/
def ofClass (classes : List Classifier) (i : Instantiation) (className : String) :
    Except NoImpact Impact :=
  match i.entityNamed className with
  | none => .error (whyNone classes className)
  | some entity =>
    let referring := (i.graph.edgesTo entity).filter fun e => e.kind != .composition
    let shown := referring.map fun e => s!"{shownName i e.source} ({e.kind.name})"
    .ok {
      className, entity
      parts := reached i entity .ownership
      uses := reached i entity .usage
      referrers := (Std.ExtTreeSet.ofList shown).toList }

/-- A heading with names below it. -/
def sectionLines (title : String) (names : List String) : List String :=
  s!"  {title} [{names.length}]:" ::
    if names.isEmpty then ["    (none)"] else names.map ("    " ++ ·)

/-- The lines of the report on an impact. -/
def lines (i : Impact) : List String :=
  s!"Impact of deleting {i.className} ({i.entity.text}):" ::
    sectionLines "Deleted with it (composition)" i.parts ++
      sectionLines "Uses (association, dependency)" i.uses ++
      sectionLines "Edges dropped from" i.referrers

end Impact

end ClassGraph
