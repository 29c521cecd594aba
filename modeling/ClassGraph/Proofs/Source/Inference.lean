import ClassGraph.Source.Kotlin.Model

/-!
# What inferred relations leave alone

What a member says of relations is recorded among the relations of a class model, and nothing else
of the model changes. A function adds a method with the parameters of its text besides
(`exists_addFunction`).
-/

namespace ClassGraph.Classifier

variable (c : Classifier)

/-- To relate a class changes its relations only. -/
theorem exists_relate (r : Relation) : ∃ relations, c.relate r = { c with relations } := by
  rw [relate]
  split
  · exact ⟨c.relations, rfl⟩
  · exact ⟨_, rfl⟩

/-- To relate a field changes the relations of its class only. -/
theorem exists_relateField (field : String) (type : TypeRef) (owned : Bool) :
    ∃ relations, c.relateField field type owned = { c with relations } := by
  rw [relateField]
  split
  · exact ⟨c.relations, rfl⟩
  · exact c.exists_relate _

/-- To relate what a method uses changes the relations of its class only. -/
theorem exists_relateUsage (method : String) (type : TypeRef) :
    ∃ relations, c.relateUsage method type = { c with relations } := by
  rw [relateUsage]
  split
  · exact ⟨c.relations, rfl⟩
  · exact c.exists_relate _

/-- The types of several parameters change the relations only, too. -/
theorem exists_foldl_relateUsage (method : String) (used : List (String × TypeRef)) :
    ∃ relations, used.foldl (fun c p => c.relateUsage method p.2) c = { c with relations } := by
  induction used generalizing c with
  | nil => exact ⟨c.relations, rfl⟩
  | cons p used ih =>
    obtain ⟨relations, hrelations⟩ := c.exists_relateUsage method p.2
    rw [List.foldl_cons, hrelations]
    exact ih _

end ClassGraph.Classifier

namespace ClassGraph.Source.Kotlin

/-- The scope in which the types of a function are read. -/
def signatureScope (scope : TypeScope) (typeParameters : List TokenTree) : TypeScope :=
  { scope with
    parameters := scope.parameters ++ TypeRef.parameterNames (TokenTree.text typeParameters) }

/-- A parameter with its type as it is shown. -/
def ParameterText.resolved (scope : TypeScope) (p : ParameterText) : Parameter where
  name := p.name
  typeName := (TypeRef.resolve scope p.type).display

/-- A function adds its method and nothing else but relations. -/
theorem exists_addFunction (scope : TypeScope) (c : Classifier)
    (modifiers typeParameters : List TokenTree) (name : String) (parameters : TokenTree)
    (result : List Char) (hasBody : Bool) :
    ∃ m relations,
      addFunction scope c modifiers typeParameters name parameters result hasBody =
        { c with methods := c.methods ++ [m], relations } ∧
      m.name = name ∧
      m.parameters = (parametersOf (TokenTree.text [parameters])).map
        (ParameterText.resolved (signatureScope scope typeParameters)) := by
  let own := signatureScope scope typeParameters
  let used := (parametersOf (TokenTree.text [parameters])).map fun p =>
    (p.name, TypeRef.resolve own p.type)
  let returned := TypeRef.resolve own (resultType result)
  let m : Method := {
    name
    returnType := returned.display
    parameters := used.map fun p => { name := p.1, typeName := p.2.display }
    visibility := visibilityOf (TokenTree.text modifiers)
    isAbstract := !hasBody }
  have hfunction : addFunction scope c modifiers typeParameters name parameters result hasBody =
      ((used.foldl (fun c p => c.relateUsage name p.2) c).relateUsage name returned).addMethod m :=
    rfl
  obtain ⟨relations, hparameters⟩ := c.exists_foldl_relateUsage name used
  obtain ⟨relations', hresult⟩ :=
    Classifier.exists_relateUsage { c with relations } name returned
  refine ⟨m, relations', ?_, rfl, List.map_map⟩
  rw [hfunction, hparameters, hresult]
  rfl

end ClassGraph.Source.Kotlin
