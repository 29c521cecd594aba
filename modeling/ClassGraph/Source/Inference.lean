import ClassGraph.Model.Basic
import ClassGraph.Source.TypeRef

/-!
# Inferred relations

What the members of a class say about its relations. A container aggregates what it holds, an
owned field is a part, any other field refers to one object, and a type in the signature of a
method is a dependency.
-/

namespace ClassGraph

namespace Classifier

/-- Records what a field of a type says. -/
def relateField (c : Classifier) (field : String) (type : TypeRef) (owned : Bool) : Classifier :=
  match type.target with
  | none => c
  | some target =>
    let (kind, cardinality) : RelationKind × Option Cardinality :=
      if type.isCollection then (.aggregation, some .many)
      else if owned then (.composition, none)
      else (.association, some .one)
    c.relate { kind, target, via := some field, cardinality }

/-- Records what a type in the signature of a method says. -/
def relateUsage (c : Classifier) (method : String) (type : TypeRef) : Classifier :=
  match type.target with
  | none => c
  | some target => c.relate { kind := .dependency, target, via := some method }

/-- One more field. -/
def addField (c : Classifier) (f : Field) : Classifier := { c with fields := c.fields ++ [f] }

/-- One more constant of an enum. -/
def addConstant (c : Classifier) (name : String) : Classifier :=
  c.addField { name, typeName := "", visibility := .toAll }

/-- One more method. -/
def addMethod (c : Classifier) (m : Method) : Classifier := { c with methods := c.methods ++ [m] }

end Classifier

namespace Source

open Text

/-- The simple name of a supertype, without package, arguments and whatever follows. -/
def supertypeName? (s : List Char) : Option String :=
  let head := (words (beforeChar '(' s)).headD []
  let name := TypeRef.simpleName (genericBase head)
  if name.isEmpty then none else some (String.ofList name)

/-- The name that a text calls: a capitalized name in front of an argument list, with type
arguments or without. -/
def constructorCall? (s : List Char) : Option (List Char) :=
  let text := trimStart s
  let name := text.takeWhile isNameChar
  let rest := trimStart (text.dropWhile isNameChar)
  let isCall := rest.head? == some '(' || (rest.head? == some '<' && rest.contains '(')
  if isCall && name.head?.any isCapital then some name else none

end Source

end ClassGraph
