import ClassGraph.Model.Basic
import ClassGraph.Registry.Contract

/-!
# Declarations of class models

Interfaces are roles, and all other classes are types. Of several classes of one name the last one
counts. A role requires the abstract methods of its interface and of all that the interface
extends; `interfaceClosure` collects those, also where interfaces extend each other in a circle.
-/

namespace ClassGraph

/-- Classes by name. -/
abbrev Declared := Std.ExtTreeMap String Classifier

namespace Declared

/-- The classes of a list, the last one of each name. -/
def ofList (classes : List Classifier) : Declared :=
  classes.foldl (fun all c => all.insert c.name c) ∅

/-- The classes in the order of their names. -/
def classes (d : Declared) : List Classifier := d.toList.map (·.2)

/-- The interface of a name. -/
def interface? (d : Declared) (name : String) : Option Classifier :=
  d[name]?.filter fun c => c.kind == .interface

/-- The declared interfaces among some names. -/
def interfacesAmong (d : Declared) (names : List String) : NameSet :=
  .ofList (names.filter fun name => (d.interface? name).isSome)

/-- What a class names as its supertypes. -/
def supertypes (c : Classifier) : List String := c.interfaces ++ c.superclass.toList

/-- A set of interfaces with the interfaces that they extend directly. -/
def extendOnce (d : Declared) (names : NameSet) : NameSet :=
  names ∪ d.interfacesAmong (names.toList.flatMap fun name => (d[name]?.elim [] supertypes))

/-- A set of interfaces with those that they extend over at most `rounds` steps. -/
def extendWithin (d : Declared) : Nat → NameSet → NameSet
  | 0, names => names
  | rounds + 1, names =>
    let more := d.extendOnce names
    if more.size = names.size then names else d.extendWithin rounds more

/-- An interface and all interfaces that it extends, directly or not; nothing for a name that is no
interface. Each round but the last adds an interface. -/
def interfaceClosure (d : Declared) (name : String) : NameSet :=
  d.extendWithin d.size (d.interfacesAmong [name])

/-- A class and the classes above it that are declared, at most `limit` in all. -/
def lineageWithin (d : Declared) : Nat → Classifier → List Classifier
  | 0, _ => []
  | limit + 1, c => c :: (c.superclass.bind (d[·]?)).elim [] (d.lineageWithin limit)

/-- A class and the declared classes above it. A longer line than there are classes comes back to
one that it holds already. -/
def lineage (d : Declared) (c : Classifier) : List Classifier := d.lineageWithin d.size c

/-- The roles that a class has by itself and by the classes above it. -/
def rolesOf (d : Declared) (c : Classifier) : NameSet :=
  ((d.lineage c).flatMap (·.interfaces)).foldl
    (fun roles name => roles ∪ d.interfaceClosure name) ∅

/-- The operation that a method is. -/
def operation (m : Method) : Operation := ⟨m.name, m.parameters.length⟩

/-- The role of an interface. -/
def role (d : Declared) (interface : Classifier) : Role :=
  let methods := (d.interfaceClosure interface.name).toList.flatMap fun name =>
    d[name]?.elim [] (·.methods)
  ⟨interface.name, .ofList ((methods.filter (·.isAbstract)).map operation)⟩

/-- The type of a class that is no interface. A base counts when it is declared as a type. -/
def type (d : Declared) (c : Classifier) : TypeDecl where
  tag := c.name
  base := c.superclass.filter fun name => d.contains name && (d.interface? name).isNone
  isAbstract := !c.isInstantiable
  operations := .ofList ((c.methods.filter fun m => !m.isAbstract).map operation)

/-- The names that some relation leads to and no class has. -/
def external (d : Declared) : NameSet :=
  .ofList ((d.classes.flatMap fun c => c.relations.map (·.target)).filter fun name =>
    !d.contains name)

/-- The roles and types of the classes, and a type for each name of `externals`. -/
def declarations (d : Declared) (externals : NameSet) : Declarations :=
  let interfaces := d.classes.filter fun c => c.kind == .interface
  let types := (d.classes.filter fun c => c.kind != .interface).map d.type
  let outside := externals.toList.map fun name => { tag := name : TypeDecl }
  { roles := .ofList (interfaces.map fun c => (c.name, d.role c))
    types := .ofList ((types ++ outside).map fun t => (t.tag, t)) }

end Declared

end ClassGraph
