import ClassGraph.Model.Basic
import ClassGraph.Source.Java.Lexer
import ClassGraph.Source.Search
import ClassGraph.Source.Span

/-!
# Declarations of Java

Where a class, interface, enum, record or annotation type is declared, at whatever depth, with the
type parameters that are in scope there. A declaration has a name and a body. Only its body is
searched for more of them; what stands in front of it is not.
-/

namespace ClassGraph.Source.Java

open TokenTree

/-- The modifiers that are single words. -/
def modifierWords : List String :=
  ["public", "protected", "private", "abstract", "static", "final", "strictfp", "default",
    "synchronized", "native", "transient", "volatile", "sealed"]

/-- The length of an annotation. -/
def annotatedLength : List TokenTree → Nat
  | [] => 0
  | mark :: ts =>
    if mark.isSymbol "@" && !ts.head?.any (isWord "interface") then
      match qualifiedLength ts with
      | 0 => 0
      | length => 1 + length + if (ts.drop length).head?.any isParens then 1 else 0
    else 0

/-- The length of one modifier. -/
def modifierLength (trees : List TokenTree) : Nat :=
  match trees with
  | [] => 0
  | t :: ts =>
    if t.isWordIn modifierWords then 1
    else if t.isWord "non" then
      match ts with
      | dash :: word :: _ => if dash.isSymbol "-" && word.isWord "sealed" then 3 else 0
      | _ => 0
    else annotatedLength trees

/-- The length of all modifiers in front of a declaration. -/
def modifiersLength (trees : List TokenTree) : Nat := repeatedLength modifierLength trees

/-- A declaration as it is written. -/
structure Declaration where
  /-- What is declared. -/
  kind : ClassifierKind
  /-- The modifiers. -/
  modifiers : List TokenTree
  /-- The name. -/
  name : String
  /-- The type parameters with their brackets. -/
  typeParameters : List TokenTree
  /-- The superclass, behind its keyword. -/
  superclass : List TokenTree := []
  /-- The interfaces, behind their keyword. -/
  interfaces : List TokenTree := []
  /-- The components of a record. -/
  components : List TokenTree := []
  /-- What stands in the body. -/
  body : List TokenTree
  /-- The number of trees of the declaration. -/
  length : Nat
  /-- The names of the type parameters in scope, those of the declaration last. -/
  scope : List String := []

/-- What is declared behind a keyword, and how many trees the keyword has. -/
def keyword? : List TokenTree → Option (ClassifierKind × Nat)
  | [] => none
  | t :: ts =>
    match t.word? with
    | some "class" => some (.plain, 1)
    | some "interface" => some (.interface, 1)
    | some "enum" => some (.enum, 1)
    | some "record" => some (.record, 1)
    | _ =>
      if t.isSymbol "@" && ts.head?.any (isWord "interface") then some (.annotationType, 2)
      else none

/-- A clause that starts with a keyword, and what follows it; nothing where it does not start. -/
def clause (key : String) (ends : List String) (trees : List TokenTree) :
    List TokenTree × List TokenTree :=
  match trees with
  | [] => ([], [])
  | t :: ts =>
    if t.isWord key then
      (t :: ts.takeWhile fun u => !u.isWordIn ends, ts.dropWhile fun u => !u.isWordIn ends)
    else ([], trees)

/-- The declaration that a list of trees starts with. -/
def declaration? (trees : List TokenTree) : Option Declaration := do
  let modifiers := trees.take (modifiersLength trees)
  let rest := trees.drop modifiers.length
  let (kind, keyLength) ← keyword? rest
  let name ← (← (rest.drop keyLength).head?).name?
  let rest := rest.drop (keyLength + 1)
  let typeParameters := rest.take (angleLength rest)
  let rest := rest.drop typeParameters.length
  let (components, rest) ←
    if kind = .record then
      match rest with
      | t :: rest => if t.isParens then some (t.children, rest) else none
      | [] => none
    else some ([], rest)
  let clauses := rest.takeWhile fun t => !t.isBlock
  if clauses.any (isSymbolIn [";", "="]) then none
  let body ← (rest.drop clauses.length).head?
  let (superclass, more) :=
    if kind = .plain then clause "extends" ["implements", "permits"] clauses else ([], clauses)
  let key := if kind = .interface then "extends" else "implements"
  return {
    kind, modifiers, name, typeParameters, superclass, components
    interfaces := (clause key ["permits"] more).1
    body := body.children
    length := trees.length - rest.length + clauses.length + 1 }

/-- How declarations are found: a word behind a dot starts none. -/
def notion : Notion Declaration where
  start? _ scope trees := do
    let d ← declaration? trees
    let scope := scope ++ TypeRef.parameterNames (text d.typeParameters)
    return { declaration := { d with scope }, scope, length := d.length, hasBody := true }
  bars := isSymbol "."

/-- Every declaration in the trees of a source text. -/
def declarations (trees : List TokenTree) : List Declaration := search notion trees

/-- The package declaration at the beginning of a list of trees. -/
def packageLength (trees : List TokenTree) : Nat :=
  let marks := repeatedLength annotatedLength trees
  match trees.drop marks with
  | [] => 0
  | key :: ts =>
    match qualifiedLength ts with
    | 0 => 0
    | length =>
      if key.isWord "package" then
        marks + 1 + length + if (ts.drop length).head?.any (isSymbol ";") then 1 else 0
      else 0

end ClassGraph.Source.Java
