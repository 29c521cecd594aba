import ClassGraph.Source.Java.Declaration

/-!
# Members of a Java declaration

The fields and methods that stand directly in a body, each cut into its parts. Constructors,
initializers and nested declarations are passed over, and so are the elements of annotation types.
-/

namespace ClassGraph.Source.Java

open TokenTree

/-- A declared variable: its name, the dimensions behind it and its initial value. -/
structure Declarator where
  /-- The name. -/
  name : String
  /-- The dimensions behind the name. -/
  dimensions : List TokenTree
  /-- The initial value. -/
  value : List TokenTree

/-- A field or a method. -/
inductive Member where
  /-- Fields of one type. -/
  | field (modifiers type : List TokenTree) (declarators : List Declarator)
  /-- A method. -/
  | method (modifiers typeParameters type : List TokenTree) (name : String)
      (parameters : List TokenTree) (hasBody : Bool)
  /-- Anything else. -/
  | other

/-- A list whose last trees are a name and dimensions behind it: what stands in front of the name,
the name, and the dimensions. -/
def splitName? (trees : List TokenTree) : Option (List TokenTree × String × List TokenTree) := do
  let reversed := trees.reverse
  let dimensions := reversed.takeWhile isSquare
  let rest := reversed.drop dimensions.length
  return (rest.tail.reverse, ← (← rest.head?).name?, dimensions.reverse)

/-- The symbols of a type, besides brackets. -/
def typeSymbols : List String := [".", ",", "?", "&", "@"]

/-- Whether a tree may stand in the name of a type with its arguments. -/
def isTypePart (t : TokenTree) : Bool := t.word?.isSome || t.isSymbolIn ("<" :: ">" :: typeSymbols)

/-- The variable that a list of trees declares behind its type. -/
def declarator? (trees : List TokenTree) : Option Declarator := do
  let front := trees.takeWhile fun t => !t.isSymbol "="
  let (_, name, dimensions) ← splitName? front
  return { name, dimensions, value := trees.drop (front.length + 1) }

/-- Whether a list of trees is a chain of names, calls and accesses: operands with dots between
them, each with arguments or indexes behind it. -/
def isPrimary (afterDot : Bool) : List TokenTree → Bool
  | [] => !afterDot
  | t :: ts =>
    if afterDot && t.isWord "new" then isPrimary true ts
    else if afterDot then
      (t.word?.isSome || t.isLiteral || t.isParens) && isPrimary false ts
    else if t.isSymbol "." then isPrimary true ts
    else (t.isParens || t.isSquare) && isPrimary false ts

/-- Whether a list of trees is an instance creation without anything in front of it. -/
def isPlainCreation (trees : List TokenTree) : Bool :=
  match trees with
  | [] => false
  | key :: rest =>
    key.isWord "new" &&
      let type := rest.takeWhile fun t => !t.isParens && !t.isBlock && !t.isSquare
      !type.isEmpty && type.all isTypePart &&
        match rest.drop type.length with
        | [arguments] => arguments.isParens
        | [arguments, body] => arguments.isParens && body.isBlock
        | _ => false

/-- Whether a list of trees is an instance creation, alone or behind the instance that is to hold
the new one. -/
def isCreation : List TokenTree → Bool
  | trees =>
    isPlainCreation trees ||
      (List.range trees.length).any fun i =>
        (trees[i]?.any (isSymbol ".")) && isPlainCreation (trees.drop (i + 1)) &&
          isPrimary true (trees.take i)

/-- The member that a list of trees starts with and its length. In an annotation type what looks
like a method is an element. -/
def member (inAnnotationType : Bool) (trees : List TokenTree) : Member × Nat :=
  let modifiers := trees.take (modifiersLength trees)
  let rest := trees.drop modifiers.length
  if rest.head?.any fun t => t.isBlock || t.isSymbol ";" then (.other, modifiers.length + 1)
  else
    match declaration? trees with
    | some d => (.other, d.length)
    | none =>
      let typeParameters := rest.take (angleLength rest)
      let marks := repeatedLength annotatedLength (rest.drop typeParameters.length)
      let rest := rest.drop (typeParameters.length + marks)
      let start := trees.length - rest.length
      let isEnd (t : TokenTree) : Bool := t.isParens || t.isBlock || t.isSymbolIn ["=", ";", ","]
      let head := rest.take (lengthUntil isEnd 0 rest)
      match rest.drop head.length with
      | [] => (.other, trees.length)
      | t :: after =>
        if t.isBlock then (.other, start + head.length + 1)
        else if t.isParens then
          if inAnnotationType then
            (.other, start + head.length + 1 + lengthThrough (isSymbol ";") after)
          else
            let length := lengthThrough (fun t => t.isBlock || t.isSymbol ";") after
            let hasBody := (after.take length).getLast?.any isBlock
            let length := start + head.length + 1 + length
            match splitName? head with
            | some (type, name, _) =>
              if type.isEmpty then (.other, length)
              else (.method modifiers typeParameters type name t.children hasBody, length)
            | none => (.other, length)
        else
          let length := lengthThrough (isSymbol ";") rest
          let written := (rest.take length).filter fun t => !t.isSymbol ";"
          match splitName? head with
          | some (type, _, _) =>
            let parts := splitTrees (isSymbol ",") (argumentsLength typeSymbols) []
              (written.drop type.length)
            (.field modifiers type (parts.filterMap declarator?), start + length)
          | none => (.other, start + length)

/-- The members in a body. -/
def members (inAnnotationType : Bool) (body : List TokenTree) : List Member :=
  pieces (member inAnnotationType) body

/-- The constants of an enum and the rest of its body. -/
def enumParts (body : List TokenTree) : List String × List TokenTree :=
  let constants := body.takeWhile fun t => !t.isSymbol ";"
  let names := (splitTrees (isSymbol ",") (fun _ => 1) [] constants).filterMap fun piece => do
    (← (piece.drop (modifiersLength piece)).head?).name?
  (names, body.drop (constants.length + 1))

/-- A parameter: its name and the text of its type. -/
structure ParameterText where
  /-- The name. -/
  name : String
  /-- The type as it is written. -/
  type : List Char

/-- The parameter of fixed arity that a list of trees declares. The receiver is none. -/
def fixedParameter? (trees : List TokenTree) : Option ParameterText := do
  let (type, name, dimensions) ← splitName? (trees.drop (modifiersLength trees))
  if type.isEmpty || name == "this" then none
  return { name, type := text type ++ text dimensions }

/-- The parameter of variable arity that a text declares. -/
def variableParameter? (written : List Char) : Option ParameterText := do
  let (type, name) ← Text.cutAtText? "...".toList written
  let words := (Text.words type).filter fun w => w ≠ "final".toList && w.head? ≠ some '@'
  return {
    name := String.ofList (Text.trim name)
    type := Text.join [' '] words ++ "...".toList }

/-- Whether a parameter is of variable arity. -/
def isVariable (trees : List TokenTree) : Bool := trees.any (isSymbol "...")

/-- The parameter that a list of trees declares. -/
def parameter? (trees : List TokenTree) : Option ParameterText :=
  if isVariable trees then variableParameter? (text trees) else fixedParameter? trees

/-- The components of a record of fixed arity. -/
def recordComponents (trees : List TokenTree) : List ParameterText :=
  ((splitCommas trees).filter fun piece => !isVariable piece).filterMap fixedParameter?

end ClassGraph.Source.Java
