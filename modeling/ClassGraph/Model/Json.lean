import ClassGraph.Model.Basic
import ClassGraph.Json.Basic

/-!
# Class models as JSON

`Classifier.toJson` writes every member but the absent ones among superclass, package, member and
multiplicity; `Classifier.ofJson?` reads what it writes and takes what is left out as absent, empty
or false. Members of other names are passed over.
-/

namespace ClassGraph

/-- The value that `read` finds in a member that must be there. -/
def Json.required? {α : Type} (j : Json) (key : String) (read : Json → Option α) : Option α := do
  read (← j.member? key)

/-- The value that `read` finds in a member, or `otherwise` when there is none. -/
def Json.memberOr? {α : Type} (j : Json) (key : String) (otherwise : α)
    (read : Json → Option α) : Option α :=
  match j.member? key with
  | none => some otherwise
  | some value => read value

/-- What `read` finds in a value that is not `null`. -/
def Json.nullable? {α : Type} (read : Json → Option α) : Json → Option (Option α)
  | .null => some none
  | value => (read value).map some

/-- The items of an array, each read by `read`. -/
def Json.list? {α : Type} (read : Json → Option α) (j : Json) : Option (List α) := do
  (← j.array?).mapM read

/-- A text that is one of a list of words. -/
def Json.word? {α : Type} (read : String → Option α) (j : Json) : Option α := do
  read (← j.string?)

namespace Field

/-- A field as an object. -/
def toJson (f : Field) : Json :=
  .object [("name", .string f.name), ("type_name", .string f.typeName),
    ("visibility", .string f.visibility.name), ("is_static", .bool f.isStatic)]

/-- The field that an object describes. -/
def ofJson? (j : Json) : Option Field := do
  return {
    name := ← j.required? "name" Json.string?
    typeName := ← j.required? "type_name" Json.string?
    visibility := ← j.required? "visibility" (Json.word? Visibility.ofName?)
    isStatic := ← j.memberOr? "is_static" false Json.bool? }

end Field

namespace Parameter

/-- A parameter as an object. -/
def toJson (p : Parameter) : Json :=
  .object [("name", .string p.name), ("type_name", .string p.typeName)]

/-- The parameter that an object describes. -/
def ofJson? (j : Json) : Option Parameter := do
  return {
    name := ← j.required? "name" Json.string?
    typeName := ← j.required? "type_name" Json.string? }

end Parameter

namespace Method

/-- A method as an object. -/
def toJson (m : Method) : Json :=
  .object [("name", .string m.name), ("return_type", .string m.returnType),
    ("parameters", .array (m.parameters.map Parameter.toJson)),
    ("visibility", .string m.visibility.name), ("is_static", .bool m.isStatic),
    ("is_abstract", .bool m.isAbstract)]

/-- The method that an object describes. -/
def ofJson? (j : Json) : Option Method := do
  return {
    name := ← j.required? "name" Json.string?
    returnType := ← j.required? "return_type" Json.string?
    parameters := ← j.required? "parameters" (Json.list? Parameter.ofJson?)
    visibility := ← j.required? "visibility" (Json.word? Visibility.ofName?)
    isStatic := ← j.memberOr? "is_static" false Json.bool?
    isAbstract := ← j.memberOr? "is_abstract" false Json.bool? }

end Method

namespace Relation

/-- A relation as an object; what is absent is left out. -/
def toJson (r : Relation) : Json :=
  Json.objectOfPresent [("kind", some (.string r.kind.name)), ("target", some (.string r.target)),
    ("via", r.via.map .string), ("cardinality", r.cardinality.map fun c => .string c.name)]

/-- The relation that an object describes. -/
def ofJson? (j : Json) : Option Relation := do
  return {
    kind := ← j.required? "kind" (Json.word? RelationKind.ofName?)
    target := ← j.required? "target" Json.string?
    via := ← j.memberOr? "via" none (Json.nullable? Json.string?)
    cardinality :=
      ← j.memberOr? "cardinality" none (Json.nullable? (Json.word? Cardinality.ofName?)) }

end Relation

namespace Classifier

/-- A declaration as an object; an absent superclass or package is left out. -/
def toJson (c : Classifier) : Json :=
  Json.objectOfPresent [("name", some (.string c.name)), ("kind", some (.string c.kind.name)),
    ("visibility", some (.string c.visibility.name)),
    ("fields", some (.array (c.fields.map Field.toJson))),
    ("methods", some (.array (c.methods.map Method.toJson))),
    ("extends", c.superclass.map .string),
    ("implements", some (Json.ofStrings c.interfaces)),
    ("is_abstract", some (.bool c.isAbstract)),
    ("package", c.package.map .string),
    ("relations", some (.array (c.relations.map Relation.toJson)))]

/-- The declaration that an object describes. -/
def ofJson? (j : Json) : Option Classifier := do
  return {
    name := ← j.required? "name" Json.string?
    kind := ← j.required? "kind" (Json.word? ClassifierKind.ofName?)
    visibility := ← j.required? "visibility" (Json.word? Visibility.ofName?)
    fields := ← j.required? "fields" (Json.list? Field.ofJson?)
    methods := ← j.required? "methods" (Json.list? Method.ofJson?)
    superclass := ← j.memberOr? "extends" none (Json.nullable? Json.string?)
    interfaces := ← j.memberOr? "implements" [] Json.strings?
    isAbstract := ← j.memberOr? "is_abstract" false Json.bool?
    package := ← j.memberOr? "package" none (Json.nullable? Json.string?)
    relations := ← j.memberOr? "relations" [] (Json.list? Relation.ofJson?) }

end Classifier

end ClassGraph
