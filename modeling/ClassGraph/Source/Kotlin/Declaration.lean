import ClassGraph.Model.Basic
import ClassGraph.Source.Kotlin.Span
import ClassGraph.Source.Search

/-!
# Declarations of Kotlin

Where a class, interface or object with a name is declared, at whatever depth. A declaration may do
without a body. Behind a supertype that is delegated to an expression, a block is the body of the
declaration or an argument of the expression, and `isArgument` decides which.
-/

namespace ClassGraph.Source.Kotlin

open TokenTree

/-- A declaration as it is written. -/
structure Declaration where
  /-- What is declared. -/
  kind : ClassifierKind
  /-- The modifiers. -/
  modifiers : List TokenTree
  /-- The name. -/
  name : String
  /-- The type parameters with their brackets. -/
  typeParameters : List TokenTree
  /-- The parameters of the primary constructor. -/
  parameters : List TokenTree
  /-- The supertypes. -/
  supertypes : List (List TokenTree)
  /-- What stands in the body, where there is one. -/
  body : Option (List TokenTree)
  /-- The number of trees of the declaration. -/
  length : Nat
  /-- The names of the type parameters in scope, those of the declaration last. -/
  scope : List String := []

/-- The words that start a member of a class behind its modifiers. -/
def memberWords : List String :=
  ["val", "var", "fun", "class", "interface", "object", "companion", "init", "constructor",
    "typealias"]

/-- Whether a list of trees starts with a member of a class. -/
def startsMember (trees : List TokenTree) : Bool :=
  (trees.drop (modifiersLength trees)).head?.any (isWordIn memberWords)

/-- Whether what stands in a block can be read as statements. The constants of an enum cannot, and
neither can a constructor whose parameters have types. -/
def readsAsStatements (isEnum : Bool) (body : List TokenTree) : Bool :=
  let hasConstants := isEnum && (body.takeWhile fun t => !t.isSymbol ";").any (isSymbol ",")
  let isConstructor (pair : TokenTree × TokenTree) : Bool :=
    pair.1.isWord "constructor" && pair.2.isParens && pair.2.children.any (isSymbol ":")
  !hasConstants && !(body.zip body.tail).any isConstructor

/-- Whether the block that a list of trees starts with is an argument of the expression in front of
it and not the body of the declaration. At the end of a source text it is one whenever it can
be. -/
def isArgument (isEnum outermost : Bool) : List TokenTree → Bool
  | [] => false
  | block :: after =>
    let body := block.children
    (outermost && after.isEmpty && readsAsStatements isEnum body) ||
      !(isEnum || body.isEmpty || startsMember body)

/-- What is declared behind a keyword, and how many trees the keyword has. -/
def keyword? : List TokenTree → Option (ClassifierKind × Nat)
  | [] => none
  | t :: ts =>
    match t.word? with
    | some "class" => some (.plain, 1)
    | some "interface" => some (.interface, 1)
    | some "object" => some (.object, 1)
    | some "fun" => if ts.head?.any (isWord "interface") then some (.interface, 2) else none
    | _ => none

/-- The kind of a declaration: that of its keyword, which modifiers of a class refine. -/
def kindOf (keyword : ClassifierKind) (modifiers : List TokenTree) : ClassifierKind :=
  let words := text modifiers
  if keyword ≠ .plain then keyword
  else if hasModifier words "enum" then .enum
  else if hasModifier words "annotation" then .annotationType
  else .plain

/-- The length of the primary constructor behind the name of a class, its parameters last. -/
def constructorLength (trees : List TokenTree) : Nat :=
  let modifiers := modifiersLength trees
  match trees.drop modifiers with
  | [] => 0
  | t :: ts =>
    if t.isWord "constructor" && ts.head?.any isParens then modifiers + 2
    else if modifiers = 0 && t.isParens then 1
    else 0

/-- The length of one supertype. -/
def supertypeLength (takesBlock : List TokenTree → Bool) (trees : List TokenTree) : Nat :=
  match typeLength trees with
  | 0 => 0
  | length =>
    match trees.drop length with
    | [] => length
    | t :: ts =>
      if t.isParens then length + 1
      else if t.isWord "by" then length + 1 + expressionLengthFrom takesBlock true ts
      else length

/-- The length of spans with commas between them. -/
def listedLength (step : List TokenTree → Nat) (trees : List TokenTree) : Nat :=
  let leading (ts : List TokenTree) : Nat :=
    match step ts with
    | 0 => 0
    | length => if (ts.drop length).head?.any (isSymbol ",") then length + 1 else 0
  let front := repeatedLength leading trees
  front + step (trees.drop front)

/-- The length of a bound of a type parameter. -/
def boundLength (trees : List TokenTree) : Nat :=
  let marks := repeatedLength annotatedLength trees
  match trees.drop marks with
  | name :: rest =>
    if name.name?.isSome && rest.head?.any (isSymbol ":") then marks + 1 + typeClauseLength rest
    else 0
  | [] => 0

/-- The length of the bounds that a word introduces. -/
def boundsLength (trees : List TokenTree) : Nat :=
  if trees.head?.any (isWord "where") then 1 + listedLength boundLength trees.tail else 0

/-- The declaration that a list of trees starts with. -/
def declaration? (outermost : Bool) (trees : List TokenTree) : Option Declaration := do
  let modifiers := trees.take (modifiersLength trees)
  let rest := trees.drop modifiers.length
  let (keyword, keyLength) ← keyword? rest
  let name ← (← (rest.drop keyLength).head?).name?
  let kind := kindOf keyword modifiers
  let rest := rest.drop (keyLength + 1)
  let typeParameters := rest.take (angleLength rest)
  let rest := rest.drop typeParameters.length
  let constructor := rest.take (if keyword = .object then 0 else constructorLength rest)
  let rest := rest.drop constructor.length
  let listed := if rest.head?.any (isSymbol ":") then rest.tail else []
  let step := supertypeLength (isArgument (kind == .enum) outermost)
  let written := listed.take (listedLength step listed)
  let rest := if written.isEmpty then rest else listed.drop written.length
  let rest := rest.drop (boundsLength rest)
  let body := rest.head?.filter isBlock
  return {
    kind, modifiers, name, typeParameters
    parameters := constructor.getLast?.elim [] children
    supertypes :=
      if written.isEmpty then [] else splitTrees (isSymbol ",") step [] written
    body := body.map children
    length := trees.length - rest.length + if body.isSome then 1 else 0 }

/-- How declarations are found: a word behind a dot starts none, and a companion is part of its
class. -/
def notion : Notion Declaration where
  start? outermost scope trees := do
    let d ← declaration? outermost trees
    let scope := scope ++ TypeRef.parameterNames (text d.typeParameters)
    return { declaration := { d with scope }, scope, length := d.length, hasBody := d.body.isSome }
  bars t := t.isSymbolIn [".", "::"] || t.isWord "companion"

/-- Every declaration in the trees of a source text. -/
def declarations (trees : List TokenTree) : List Declaration := search notion trees

/-- The length of a package header. -/
def packageLength : List TokenTree → Nat
  | [] => 0
  | key :: ts =>
    match qualifiedLength ts with
    | 0 => 0
    | length =>
      if key.isWord "package" then
        1 + length + if (ts.drop length).head?.any (isSymbol ";") then 1 else 0
      else 0

end ClassGraph.Source.Kotlin
