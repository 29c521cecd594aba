import ClassGraph.Relation.Kind
import ClassGraph.Text.Basic

/-!
# Class models

What is known of a declared class, interface, enum, object, record or annotation, whatever language
declares it: its members, its supertypes, and its relations to other types. `Classifier.relate`
keeps one relation for each kind, target and member.
-/

namespace ClassGraph

/-- The kind of a declaration. -/
inductive ClassifierKind where
  /-- A class that is none of the others. -/
  | plain
  /-- An interface. -/
  | interface
  /-- An enumeration. -/
  | enum
  /-- An object that is its own class. -/
  | object
  /-- A record. -/
  | record
  /-- An annotation type. -/
  | annotationType
deriving DecidableEq, Repr, Inhabited

namespace ClassifierKind

/-- Every kind, in the order of the declarations. -/
def all : List ClassifierKind := [.plain, .interface, .enum, .object, .record, .annotationType]

/-- The word for a kind. -/
def name : ClassifierKind → String
  | .plain => "class"
  | .interface => "interface"
  | .enum => "enum"
  | .object => "object"
  | .record => "record"
  | .annotationType => "annotation"

/-- The kind that a word names. -/
def ofName? (word : String) : Option ClassifierKind := all.find? fun kind => kind.name == word

/-- A kind is found by its word. -/
theorem ofName?_name (kind : ClassifierKind) : ofName? kind.name = some kind := by
  cases kind <;> rfl

end ClassifierKind

/-- Who may see a declaration. -/
inductive Visibility where
  /-- Everyone. -/
  | toAll
  /-- The declaring class. -/
  | toClass
  /-- The declaring class and those that extend it. -/
  | toHeirs
  /-- The package or module. -/
  | toPackage
deriving DecidableEq, Repr, Inhabited

namespace Visibility

/-- Every visibility. -/
def all : List Visibility := [.toAll, .toClass, .toHeirs, .toPackage]

/-- The word for a visibility. -/
def name : Visibility → String
  | .toAll => "public"
  | .toClass => "private"
  | .toHeirs => "protected"
  | .toPackage => "package"

/-- The visibility that a word names. -/
def ofName? (word : String) : Option Visibility := all.find? fun v => v.name == word

/-- A visibility is found by its word. -/
theorem ofName?_name (v : Visibility) : ofName? v.name = some v := by cases v <;> rfl

/-- The mark of a visibility in a class diagram. -/
def symbol : Visibility → Char
  | .toAll => '+'
  | .toClass => '-'
  | .toHeirs => '#'
  | .toPackage => '~'

end Visibility

/-- Whether `word` is one of the words of a modifier text. -/
def hasModifier (modifiers : List Char) (word : String) : Bool :=
  (Text.words modifiers).contains word.toList

/-- The visibility that a modifier text states; a text that states none means the package. -/
def Visibility.ofModifiers (modifiers : List Char) : Visibility :=
  if hasModifier modifiers "public" then .toAll
  else if hasModifier modifiers "private" then .toClass
  else if hasModifier modifiers "protected" then .toHeirs
  else .toPackage

/-- A field, property or enum constant. -/
structure Field where
  /-- The name. -/
  name : String
  /-- The type as written; empty for an enum constant. -/
  typeName : String
  /-- Who may see the field. -/
  visibility : Visibility
  /-- Whether the field belongs to the class and not to its instances. -/
  isStatic : Bool := false
deriving DecidableEq, Repr, Inhabited

/-- A parameter of a method. -/
structure Parameter where
  /-- The name. -/
  name : String
  /-- The type as written. -/
  typeName : String
deriving DecidableEq, Repr, Inhabited

/-- A method or function. -/
structure Method where
  /-- The name. -/
  name : String
  /-- The return type as written. -/
  returnType : String
  /-- The parameters in order. -/
  parameters : List Parameter
  /-- Who may call the method. -/
  visibility : Visibility
  /-- Whether the method belongs to the class and not to its instances. -/
  isStatic : Bool := false
  /-- Whether the method is declared without a body. -/
  isAbstract : Bool := false
deriving DecidableEq, Repr, Inhabited

/-- A relation of a declaration to another type. -/
structure Relation where
  /-- The kind of the relation. -/
  kind : RelationKind
  /-- The name of the other type. -/
  target : String
  /-- The member that the relation comes from. -/
  via : Option String := none
  /-- The multiplicity, where one is stated. -/
  cardinality : Option Cardinality := none
deriving DecidableEq, Repr, Inhabited

/-- A declared type. -/
structure Classifier where
  /-- The simple name. -/
  name : String
  /-- The kind of the declaration. -/
  kind : ClassifierKind
  /-- Who may see the declaration. -/
  visibility : Visibility := .toAll
  /-- The fields in order. -/
  fields : List Field := []
  /-- The methods in order. -/
  methods : List Method := []
  /-- The superclass. -/
  superclass : Option String := none
  /-- The interfaces that the declaration names. -/
  interfaces : List String := []
  /-- Whether the declaration is marked as abstract. -/
  isAbstract : Bool := false
  /-- The package. -/
  package : Option String := none
  /-- The relations in the order in which they were found. -/
  relations : List Relation := []
deriving DecidableEq, Repr, Inhabited

/-- Two relations say the same when kind, target and member agree. -/
def Relation.sameKey (a b : Relation) : Bool :=
  a.kind == b.kind && a.target == b.target && a.via == b.via

namespace Classifier

/-- Whether instances of the declaration exist. -/
def isInstantiable (c : Classifier) : Bool :=
  !c.isAbstract && c.kind != .interface && c.kind != .annotationType

/-- Records a relation, unless one with its kind, target and member is known. -/
def relate (c : Classifier) (r : Relation) : Classifier :=
  if c.relations.any (·.sameKey r) then c else { c with relations := c.relations ++ [r] }

/-- The other types that a declaration is related to by `kind`, each once and in order. -/
def targets (c : Classifier) (kind : RelationKind) : List String :=
  let all := (c.relations.filter fun r => r.kind == kind && r.target != c.name).map (·.target)
  all.foldl (fun seen target => if seen.contains target then seen else seen ++ [target]) []

/-- The types that a declaration depends on without a structural relation to them. -/
def uncoveredDependencies (c : Classifier) : List String :=
  let structural := (c.relations.filter (·.kind.isStructural)).map (·.target)
  (c.targets .dependency).filter fun target => !structural.contains target

end Classifier

end ClassGraph
