import ClassGraph.Source.Kotlin.Lexer
import ClassGraph.Source.Span

/-!
# Spans of Kotlin

How many trees a modifier list, a type or an expression has. An expression ends at a line break
unless an operand is missing or the next line starts with something that continues it. Curly
brackets behind an operand may be an argument of a call or the body of a declaration; the caller
decides which.
-/

namespace ClassGraph.Source.Kotlin

open TokenTree

/-- The modifiers that are single words. -/
def modifierWords : List String :=
  ["public", "private", "protected", "internal", "abstract", "final", "open", "sealed", "data",
    "enum", "annotation", "inner", "value", "override", "lateinit", "tailrec", "operator", "infix",
    "inline", "external", "suspend", "const", "vararg", "noinline", "crossinline", "expect",
    "actual"]

/-- The length of an annotation. Its arguments stand directly behind its name. -/
def annotatedLength : List TokenTree → Nat
  | [] => 0
  | mark :: ts =>
    if !mark.isSymbol "@" then 0
    else if ts.head?.any isSquare then 2
    else
      let site := match ts with
        | name :: colon :: _ => if name.name?.isSome && colon.isSymbol ":" then 2 else 0
        | _ => 0
      let rest := ts.drop site
      if rest.head?.any isSquare then 2 + site
      else
        match qualifiedLength rest with
        | 0 => 0
        | length =>
          let length := length + angleLength (rest.drop length)
          let arguments := (rest.drop length).head?.any fun t => t.isParens && t.isTight
          1 + site + length + if arguments then 1 else 0

/-- The length of one modifier. -/
def modifierLength (trees : List TokenTree) : Nat :=
  if trees.head?.any (isWordIn modifierWords) then 1 else annotatedLength trees

/-- The length of all modifiers in front of a declaration. -/
def modifiersLength (trees : List TokenTree) : Nat := repeatedLength modifierLength trees

/-- The length of a name with the type arguments behind it. -/
def namedLength (trees : List TokenTree) : Nat :=
  match trees with
  | [] => 0
  | t :: ts => if t.name?.isSome then 1 + angleLength ts else 0

/-- The length of a name with a dot behind it, when another name follows. -/
def outerNameLength (trees : List TokenTree) : Nat :=
  match namedLength trees with
  | 0 => 0
  | length =>
    match trees.drop length with
    | dot :: t :: _ => if dot.isSymbol "." && t.name?.isSome then length + 1 else 0
    | _ => 0

/-- The length of the question marks behind a type. One in front of a colon is an operator. -/
def nullableLength : List TokenTree → Nat
  | [] => 0
  | t :: ts =>
    if t.isSymbol "?" && !(ts.head?.any fun u => u.isSymbol ":" && u.isTight) then
      1 + nullableLength ts
    else 0

/-- The length of what may stand in front of a type. -/
def typeModifiersLength (trees : List TokenTree) : Nat :=
  repeatedLength (fun ts => if ts.head?.any (isWord "suspend") then 1 else annotatedLength ts) trees

/-- The length of a type that is a name or stands in parentheses. -/
def simpleTypeLength (trees : List TokenTree) : Nat :=
  let front := typeModifiersLength trees
  let rest := trees.drop front
  let length :=
    if rest.head?.any isParens then 1
    else
      let outer := repeatedLength outerNameLength rest
      match namedLength (rest.drop outer) with
      | 0 => 0
      | inner => outer + inner
  if length = 0 then 0 else front + length + nullableLength (rest.drop length)

/-- The length of what a type continues behind: the parameters of a function type with their arrow,
or a type that is intersected with another. -/
def leadingTypeLength (trees : List TokenTree) : Nat :=
  match simpleTypeLength trees with
  | 0 => 0
  | length =>
    match trees.drop length with
    | [] => 0
    | [_] => 0
    | t :: u :: more =>
      if t.isSymbol "->" || t.isSymbol "&" then length + 1
      else if t.isSymbol "." && u.isParens && more.head?.any (isSymbol "->") then length + 3
      else 0

/-- The length of a type. -/
def typeLength (trees : List TokenTree) : Nat :=
  let leading := repeatedLength leadingTypeLength trees
  leading + simpleTypeLength (trees.drop leading)

/-- The length of a colon with a type behind it. -/
def typeClauseLength (trees : List TokenTree) : Nat :=
  if trees.head?.any (isSymbol ":") then 1 + typeLength trees.tail else 0

/-- The symbols of a type, besides brackets. -/
def typeSymbols : List String := [".", ",", "?", "*", "&", "@", "->", ":"]

/-- The length of the type arguments of a call or access. -/
def callArgumentsLength (trees : List TokenTree) : Nat :=
  let length := argumentsLength typeSymbols trees
  let next := (trees.drop length).head?
  if next.any fun t => t.isParens || t.isBlock || t.isSymbolIn [".", "::", "?"] then length else 0

/-- Whether the next tree is a symbol without a gap in front. -/
def tight (symbol : String) (ts : List TokenTree) : Bool :=
  ts.head?.any fun t => t.isSymbol symbol && t.isTight

/-- Whether a tree at the beginning of a line continues what stands on the line before. -/
def continuesLine (t : TokenTree) (ts : List TokenTree) : Bool :=
  let startsNumber := ts.head?.any fun u => u.isTight && u.word?.isSome && u.name?.isNone
  if t.isSymbolIn ["+", "-"] then !(tight "+" ts || tight "-" ts || startsNumber)
  else if t.isSymbol "!" then tight "=" ts
  else
    t.isSymbolIn [",", ".", ":", "::", "->", "*", "%", ">", "<", "=", "?", "|", "&", "/"] ||
      t.isParens || t.isSquare || t.isBlock || t.isWordIn ["else", "catch", "finally", "in"]

/-- The words that start a declaration or statement and are part of no expression before them. -/
def statementWords : List String :=
  ["val", "var", "fun", "class", "interface", "object", "typealias", "for", "while", "do", "where",
    "by"]

/-- The length of a part of an expression where an operand is missing, and whether one still is
behind it. Nothing is found where no expression goes on. -/
def operandStep (t : TokenTree) (ts : List TokenTree) : Nat × Bool :=
  let headLength (p : TokenTree → Bool) (ts : List TokenTree) : Nat :=
    if ts.head?.any p then 1 else 0
  if t.isSymbolIn [";", ","] then (0, true)
  else if t.isWord "if" then (1 + headLength isParens ts, true)
  else if t.isWord "when" then
    let subject := headLength isParens ts
    (1 + subject + headLength isBlock (ts.drop subject), false)
  else if t.isWord "try" then (1 + headLength isBlock ts, false)
  else if t.isWord "object" then (1 + lengthThrough isBlock ts, false)
  else if t.isWord "fun" then
    let parameters := lengthThrough isParens ts
    let length := 1 + parameters + typeClauseLength (ts.drop parameters)
    (length + 1, !((t :: ts).drop length).head?.any isBlock)
  else if t.isWordIn ["throw", "return"] then (1, true)
  else if t.isSymbol "@" then (max 1 (annotatedLength (t :: ts)), true)
  else
    match t with
    | .leaf token =>
      match token.kind with
      | .symbol => (1, true)
      | .closer => (0, true)
      | _ => (1, false)
    | .group .. => (1, false)

/-- The length of a part of an expression behind an operand, and whether another one is missing
behind it. -/
def operatorStep (takesBlock : List TokenTree → Bool) (t : TokenTree) (ts : List TokenTree) :
    Nat × Bool :=
  if t.startsLine && !continuesLine t ts then (0, false)
  else if t.isWord "as" then
    let safe := if tight "?" ts then 1 else 0
    (1 + safe + typeLength (ts.drop safe), false)
  else if t.isWord "is" then (1 + typeLength ts, false)
  else if t.isWordIn statementWords then (0, false)
  else if t.name?.isSome then (1, true)
  else if t.isParens || t.isSquare then (1, false)
  else if t.isBlock then (if takesBlock (t :: ts) then 1 else 0, false)
  else if t.isSymbol "<" then
    match callArgumentsLength (t :: ts) with
    | 0 => (1, true)
    | length => (length, false)
  else if t.isSymbol "!" then
    if tight "!" ts then (2, false)
    else if tight "=" ts then (1, true)
    else if ts.head?.any (isWordIn ["in", "is"]) then (1, false)
    else (0, false)
  else if t.isSymbolIn ["+", "-"] then
    if (t.isSymbol "+" && tight "+" ts) || (t.isSymbol "-" && tight "-" ts) then (2, false)
    else (1, true)
  else if t.isSymbol "=" then if tight "=" ts then (1, true) else (0, false)
  else if t.isSymbol "@" then if t.isTight then (2, false) else (0, false)
  else if t.isSymbolIn [".", "::", "?", "&", "|", "*", "/", "%", ">"] then (1, true)
  else (0, false)

/-- The length of an expression. -/
def expressionLengthFrom (takesBlock : List TokenTree → Bool) (needsOperand : Bool) :
    List TokenTree → Nat
  | [] => 0
  | t :: ts =>
    match if needsOperand then operandStep t ts else operatorStep takesBlock t ts with
    | (0, _) => 0
    | (further + 1, next) =>
      further + 1 + expressionLengthFrom takesBlock next (ts.drop further)
termination_by trees => trees.length
decreasing_by simp only [List.length_drop, List.length_cons]; omega

/-- The length of an expression in which every block behind an operand is an argument. -/
def expressionLength (trees : List TokenTree) : Nat :=
  expressionLengthFrom (fun _ => true) true trees

end ClassGraph.Source.Kotlin
