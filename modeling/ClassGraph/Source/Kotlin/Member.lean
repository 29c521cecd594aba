import ClassGraph.Source.Inference
import ClassGraph.Source.Kotlin.Declaration

/-!
# Members of a Kotlin declaration

The properties, functions and enum constants that stand directly in a body. What is missing in a
property is looked for in its text: the text of a property, of a constructor parameter and of a
function parameter is cut at its marks, outside of brackets.
-/

namespace ClassGraph.Source.Kotlin

open TokenTree

/-- A property as its text says. -/
structure Property where
  /-- The words in front of its keyword. -/
  modifiers : List (List Char)
  /-- Whether it may be assigned again. -/
  isMutable : Bool
  /-- The name. -/
  name : List Char
  /-- The type, where one is written. -/
  type : Option (List Char)
  /-- The initial value, where one is written. -/
  value : Option (List Char)

/-- The words of a text that are no annotations. -/
def plainWords (s : List Char) : List (List Char) :=
  (Text.words s).filter fun word => word.head? ≠ some '@'

/-- The property in a text. There is none without a keyword, and none that extends another
type. -/
def property? (written : List Char) : Option Property := do
  let (head, value) :=
    match Text.cutTopLevel? '=' written with
    | some (head, value) => (head, some (Text.trim value))
    | none => (written, none)
  let head := Text.firstLine (Text.beforeText " by ".toList head)
  let (front, type) :=
    match Text.cutTopLevel? ':' head with
    | some (front, type) => (front, (some (Text.trim type)).filter (· ≠ []))
    | none => (head, none)
  let words := plainWords front
  let isKeyword (word : List Char) : Bool := word == "val".toList || word == "var".toList
  let modifiers := words.takeWhile fun word => !isKeyword word
  let keyword ← words[modifiers.length]?
  let name ← words[modifiers.length + 1]?
  if name.contains '.' then none
  return { modifiers, isMutable := keyword == "var".toList, name, type, value }

/-- The type of a property whose text has none, by its initial value. -/
def Property.inferredType (p : Property) : List Char :=
  match p.value with
  | none => "Any".toList
  | some value =>
    match constructorCall? value with
    | some name => name
    | none =>
      let first := value.head?
      if first = some '"' then "String".toList
      else if value = "true".toList ∨ value = "false".toList then "Boolean".toList
      else if first.any Char.isDigit then
        if value.contains '.' then "Double".toList else "Int".toList
      else "Any".toList

/-- A parameter of a function: its name and the text of its type. -/
structure ParameterText where
  /-- The name. -/
  name : String
  /-- The type as it is written. -/
  type : List Char

/-- The parameter in a text. One of variable arity is an array. -/
def parameter? (written : List Char) : Option ParameterText := do
  let (front, type) ← Text.cutAt? ':' (Text.beforeChar '=' written)
  let words := plainWords front
  let type :=
    if words.contains "vararg".toList then "Array<".toList ++ Text.trim type ++ ['>'] else type
  return { name := String.ofList (words.getLastD []), type }

/-- The parameters in the text of a parameter list with its parentheses. -/
def parametersOf (written : List Char) : List ParameterText :=
  let inner := do
    let rest ← ['('].isPrefixOf? written
    [')'].isSuffixOf? rest
  (Text.splitTopLevel ',' (inner.getD written)).filterMap parameter?

/-- A property or a function. -/
inductive Member where
  /-- A property. -/
  | property (trees : List TokenTree)
  /-- A function; `result` is what stands between its parameters and its body. -/
  | function (modifiers typeParameters : List TokenTree) (name : String) (parameters : TokenTree)
      (result : List Char) (hasBody : Bool)
  /-- Anything else. -/
  | other

/-- The length of one part of the type that a member extends, with the dot behind it. -/
def receiverPartLength (trees : List TokenTree) : Nat :=
  let base := if trees.head?.any isParens then 1 else namedLength trees
  if base = 0 then 0
  else
    let length := base + nullableLength (trees.drop base)
    match trees.drop length with
    | dot :: t :: _ => if dot.isSymbol "." && t.name?.isSome then length + 1 else 0
    | _ => 0

/-- The length of the type that a member extends, with annotations and dots. -/
def receiverLength (trees : List TokenTree) : Nat :=
  let marks := repeatedLength annotatedLength trees
  match repeatedLength receiverPartLength (trees.drop marks) with
  | 0 => 0
  | length => marks + length

/-- The length of an expression with the sign in front of it. -/
def valueLength (sign : TokenTree → Bool) (trees : List TokenTree) : Nat :=
  if trees.head?.any sign then 1 + expressionLength trees.tail else 0

/-- The length of the body of a function. -/
def bodyLength (trees : List TokenTree) : Nat :=
  if trees.head?.any isBlock then 1 else valueLength (isSymbol "=") trees

/-- The length of an accessor of a property. One without parentheses ends its line. -/
def accessorLength (trees : List TokenTree) : Nat :=
  let modifiers := modifiersLength trees
  match trees.drop modifiers with
  | [] => 0
  | key :: ts =>
    if !key.isWordIn ["get", "set"] then 0
    else
      match ts with
      | [] => modifiers + 1
      | t :: rest =>
        if t.isParens then
          let length := typeClauseLength rest
          modifiers + 2 + length + bodyLength (rest.drop length)
        else if t.startsLine || t.isSymbol ";" then modifiers + 1
        else 0

/-- The length of a property behind its modifiers and its keyword. -/
def propertyLength (trees : List TokenTree) : Nat :=
  let front := angleLength trees
  let front := front + receiverLength (trees.drop front)
  let front := front + 1
  let front := front + typeClauseLength (trees.drop front)
  let front := front + boundsLength (trees.drop front)
  let front := front + valueLength (fun t => t.isSymbol "=" || t.isWord "by") (trees.drop front)
  let front := front + accessorLength (trees.drop front)
  front + accessorLength (trees.drop front)

/-- The function that stands behind its modifiers and its keyword, and its length. -/
def function? (modifiers trees : List TokenTree) : Option (Member × Nat) := do
  let typeParameters := trees.take (angleLength trees)
  let rest := trees.drop typeParameters.length
  let rest := rest.drop (receiverLength rest)
  let name ← (← rest.head?).name?
  let parameters ← rest.tail.head?
  if !parameters.isParens then none
  let rest := rest.drop 2
  let length := typeClauseLength rest
  let length := length + boundsLength (rest.drop length)
  let body := (rest.drop length).take (bodyLength (rest.drop length))
  let gap := body.head?.elim "" fun t => t.first.gap
  let result := Text.trim ((writtenAll (rest.take length) ++ gap).toList)
  return (.function modifiers typeParameters name parameters result !body.isEmpty,
    trees.length - rest.length + length + body.length)

/-- The member that a list of trees starts with and its length. -/
def member (trees : List TokenTree) : Member × Nat :=
  match declaration? false trees with
  | some d => (.other, d.length)
  | none =>
    let modifiers := trees.take (modifiersLength trees)
    match trees.drop modifiers.length with
    | [] => (.other, trees.length)
    | key :: rest =>
      if key.isWordIn ["val", "var"] then
        let length := modifiers.length + 1 + propertyLength rest
        (.property (trees.take length), length)
      else
        match if key.isWord "fun" then function? modifiers rest else none with
        | some (function, length) => (function, modifiers.length + 1 + length)
        | none => (.other, modifiers.length + 1)

/-- The members in a body. -/
def members (body : List TokenTree) : List Member := pieces member body

/-- The constants of an enum and the rest of its body. A body that starts with a member has no
constants. -/
def enumParts (body : List TokenTree) : List String × List TokenTree :=
  if startsMember body then ([], body)
  else
    let constants := body.takeWhile fun t => !t.isSymbol ";"
    let names := (splitTrees (isSymbol ",") (fun _ => 1) [] constants).map fun piece =>
      (text piece).takeWhile Text.isNameChar
    ((names.filter (· ≠ [])).map String.ofList, body.drop (constants.length + 1))

/-- The texts of the parameters of a primary constructor. -/
def constructorParameters (trees : List TokenTree) : List (List Char) :=
  (splitTrees (isSymbol ",") (argumentsLength typeSymbols) [] trees).map text

end ClassGraph.Source.Kotlin
