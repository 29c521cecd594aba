import ClassGraph.Source.Inference
import ClassGraph.Source.Java.Member
import ClassGraph.Source.Package

/-!
# Class models of Java

The model of every declaration in a source text, in the order of the text. A field that is
initialized with a new object owns it; the components of a record are fields with accessors, unless
the body declares the accessor itself.
-/

namespace ClassGraph.Source.Java

open TokenTree

/-- The types in the scope of a declaration. -/
def typeScope (settings : Extraction) (parameters : List String) : TypeScope :=
  { language := .java, settings, parameters }

/-- The model with one more variable of a field. -/
def addVariable (scope : TypeScope) (inInterface : Bool) (modifiers type : List TokenTree)
    (c : Classifier) (v : Declarator) : Classifier :=
  let words := text modifiers
  let isStatic := inInterface || hasModifier words "static"
  let type := TypeRef.resolve scope (text type ++ text v.dimensions)
  let owned := !isStatic && isCreation v.value
  (c.relateField v.name type owned).addField {
    name := v.name
    typeName := type.display
    visibility := if inInterface then .toAll else .ofModifiers words
    isStatic }

/-- The model with one more method. -/
def addMethod (scope : TypeScope) (inInterface : Bool) (c : Classifier)
    (modifiers typeParameters type : List TokenTree) (name : String) (parameters : List TokenTree)
    (hasBody : Bool) : Classifier :=
  let words := text modifiers
  let own := TypeRef.parameterNames (text typeParameters)
  let scope := { scope with parameters := scope.parameters ++ own }
  let returnType := TypeRef.resolve scope (text type)
  let resolved := ((splitCommas parameters).filterMap parameter?).map fun p =>
    (p.name, TypeRef.resolve scope p.type)
  let related := resolved.foldl (fun c p => c.relateUsage name p.2) (c.relateUsage name returnType)
  related.addMethod {
    name
    returnType := returnType.display
    parameters := resolved.map fun (name, type) => { name, typeName := type.display }
    visibility :=
      if inInterface && !hasModifier words "private" then .toAll else .ofModifiers words
    isStatic := hasModifier words "static"
    isAbstract := !hasBody }

/-- The model with one more member. -/
def addMember (scope : TypeScope) (inInterface : Bool) (c : Classifier) : Member → Classifier
  | .field modifiers type declarators =>
    declarators.foldl (addVariable scope inInterface modifiers type) c
  | .method modifiers typeParameters type name parameters hasBody =>
    addMethod scope inInterface c modifiers typeParameters type name parameters hasBody
  | .other => c

/-- A component of a record, as a field and as the accessor of the field. -/
def addComponent (scope : TypeScope) (made : Classifier × List Method) (p : ParameterText) :
    Classifier × List Method :=
  let type := TypeRef.resolve scope p.type
  let c := (made.1.relateField p.name type false).addField {
    name := p.name, typeName := type.display, visibility := .toClass }
  (c, made.2 ++ [{
    name := p.name, returnType := type.display, parameters := [], visibility := .toAll }])

/-- The supertypes that a clause names behind its keyword. -/
def supertypes (clause : List TokenTree) : List String :=
  let written := Text.dropRepeated "implements".toList (Text.trim (text clause))
  (Text.splitTopLevel ',' (Text.dropRepeated "extends".toList written)).filterMap supertypeName?

/-- The superclass that a clause names behind its keyword. -/
def superclass? (clause : List TokenTree) : Option String :=
  if clause.isEmpty then none
  else
    supertypeName? (Text.trim (Text.dropRepeated "extends".toList (Text.trim (text clause))))

/-- The model of a declaration. -/
def classifier (settings : Extraction) (package : Option String) (d : Declaration) : Classifier :=
  let scope := typeScope settings d.scope
  let words := text d.modifiers
  let bare : Classifier := {
    name := d.name
    kind := d.kind
    visibility := .ofModifiers words
    isAbstract := hasModifier words "abstract"
    package
    superclass := superclass? d.superclass
    interfaces := supertypes d.interfaces }
  let (withComponents, accessors) :=
    (recordComponents d.components).foldl (addComponent scope) (bare, [])
  let (constants, body) := if d.kind = .enum then enumParts d.body else ([], d.body)
  let withConstants := constants.foldl Classifier.addConstant withComponents
  let complete := (members (d.kind == .annotationType) body).foldl
    (addMember scope (d.kind == .interface)) withConstants
  let implicit := accessors.filter fun a =>
    !complete.methods.any fun m => m.name == a.name && m.parameters.isEmpty
  { complete with methods := complete.methods ++ implicit }

/-- The models of all declarations in a source text. -/
def classifiers (settings : Extraction) (source : String) : List Classifier :=
  let trees := trees source
  (declarations trees).map (classifier settings (package? packageLength trees))

end ClassGraph.Source.Java
