import ClassGraph.Source.Kotlin.Member
import ClassGraph.Source.Package

/-!
# Class models of Kotlin

The model of every declaration in a source text, in the order of the text. A property that is
initialized with a new object of its type owns it, and so does a private one that is set at
construction only.
-/

namespace ClassGraph.Source.Kotlin

open TokenTree

/-- The types in the scope of a declaration. -/
def typeScope (settings : Extraction) (parameters : List String) : TypeScope :=
  { language := .kotlin, settings, parameters }

/-- The visibility that a modifier text states; a text that states none means everyone. -/
def visibilityOf (modifiers : List Char) : Visibility :=
  if hasModifier modifiers "private" then .toClass
  else if hasModifier modifiers "protected" then .toHeirs
  else if hasModifier modifiers "internal" then .toPackage
  else .toAll

/-- The model with one more property of a type. -/
def addTyped (c : Classifier) (p : Property) (type : TypeRef) (owned : Bool) : Classifier :=
  let name := String.ofList p.name
  (c.relateField name type owned).addField {
    name
    typeName := type.display
    visibility := visibilityOf (Text.join [' '] p.modifiers) }

/-- The model with the property that the text of a constructor parameter declares. -/
def addConstructorProperty (scope : TypeScope) (c : Classifier) (written : List Char) :
    Classifier :=
  match property? written with
  | none => c
  | some p =>
    match p.type with
    | none => c
    | some type =>
      addTyped c p (TypeRef.resolve scope type)
        (p.modifiers.contains "private".toList && !p.isMutable)

/-- The model with the property that a text declares. -/
def addProperty (scope : TypeScope) (c : Classifier) (written : List Char) : Classifier :=
  match property? written with
  | none => c
  | some p =>
    let type := TypeRef.resolve scope (p.type.getD p.inferredType)
    let made := (p.value.bind constructorCall?).map String.ofList
    addTyped c p type (made.isSome && type.target == made)

/-- The type in the text between the parameters and the body of a function. -/
def resultType (result : List Char) : List Char :=
  let written := ([':'].isPrefixOf? result).map fun type =>
    Text.trim (Text.beforeText " where ".toList type)
  (written.filter (· ≠ [])).getD "Unit".toList

/-- The model with one more function. -/
def addFunction (scope : TypeScope) (c : Classifier) (modifiers typeParameters : List TokenTree)
    (name : String) (parameters : TokenTree) (result : List Char) (hasBody : Bool) : Classifier :=
  let own := TypeRef.parameterNames (text typeParameters)
  let scope := { scope with parameters := scope.parameters ++ own }
  let resolved := (parametersOf (text [parameters])).map fun p =>
    (p.name, TypeRef.resolve scope p.type)
  let returnType := TypeRef.resolve scope (resultType result)
  let related := (resolved.foldl (fun c p => c.relateUsage name p.2) c).relateUsage name returnType
  related.addMethod {
    name
    returnType := returnType.display
    parameters := resolved.map fun (name, type) => { name, typeName := type.display }
    visibility := visibilityOf (text modifiers)
    isAbstract := !hasBody }

/-- The model with one more member. -/
def addMember (scope : TypeScope) (c : Classifier) : Member → Classifier
  | .property trees => addProperty scope c (text trees)
  | .function modifiers typeParameters name parameters result hasBody =>
    addFunction scope c modifiers typeParameters name parameters result hasBody
  | .other => c

/-- The model with one more supertype. The first one that is called is the superclass, unless an
interface is declared. -/
def addSupertype (c : Classifier) (trees : List TokenTree) : Classifier :=
  let written := text trees
  match supertypeName? written with
  | none => c
  | some name =>
    if written.contains '(' && c.kind != .interface && c.superclass.isNone then
      { c with superclass := some name }
    else { c with interfaces := c.interfaces ++ [name] }

/-- The model of a declaration. -/
def classifier (settings : Extraction) (package : Option String) (d : Declaration) : Classifier :=
  let scope := typeScope settings d.scope
  let words := text d.modifiers
  let bare : Classifier := {
    name := d.name
    kind := d.kind
    visibility := visibilityOf words
    isAbstract := hasModifier words "abstract" || hasModifier words "sealed"
    package }
  let withSupertypes := d.supertypes.foldl addSupertype bare
  let withParameters := (constructorParameters d.parameters).foldl
    (addConstructorProperty scope) withSupertypes
  let body := d.body.getD []
  let (constants, body) := if d.kind = .enum then enumParts body else ([], body)
  let withConstants := constants.foldl Classifier.addConstant withParameters
  (members body).foldl (addMember scope) withConstants

/-- The models of all declarations in a source text. -/
def classifiers (settings : Extraction) (source : String) : List Classifier :=
  let trees := trees source
  let package := (package? packageLength trees).filter (· ≠ "")
  (declarations trees).map (classifier settings package)

end ClassGraph.Source.Kotlin
