import ClassGraph.Source.TokenTree

/-!
# Spans of trees

How many trees at the beginning of a list belong together: a dotted name, an annotation, type
arguments between angle brackets. Angle brackets are symbols and not groups, because the same
symbols compare numbers. `splitTrees` cuts a list at separators.
-/

namespace ClassGraph.Source

open TokenTree

/-- The length of a dotted name. -/
def qualifiedLength : List TokenTree → Nat
  | [] => 0
  | [t] => if t.name?.isSome then 1 else 0
  | t :: dot :: more =>
    if t.name?.isNone then 0
    else if dot.isSymbol "." && more.head?.any (·.name?.isSome) then 2 + qualifiedLength more
    else 1

/-- The length of what stands between angle brackets, brackets included, inside of `depth` open
ones. -/
def angleLengthFrom (depth : Nat) : List TokenTree → Nat
  | [] => 0
  | t :: ts =>
    if t.isSymbol "<" then 1 + angleLengthFrom (depth + 1) ts
    else if t.isSymbol ">" then if depth ≤ 1 then 1 else 1 + angleLengthFrom (depth - 1) ts
    else 1 + angleLengthFrom depth ts

/-- The length of a list in angle brackets, where one starts. -/
def angleLength (trees : List TokenTree) : Nat :=
  if trees.head?.any (isSymbol "<") then angleLengthFrom 0 trees else 0

/-- The length of the spans that `step` finds one after another; an empty one ends them. -/
def repeatedLength (step : List TokenTree → Nat) : List TokenTree → Nat
  | [] => 0
  | t :: ts =>
    match step (t :: ts) with
    | 0 => 0
    | further + 1 => further + 1 + repeatedLength step (ts.drop further)
termination_by trees => trees.length
decreasing_by simp only [List.length_drop, List.length_cons]; omega

/-- The lists between separators; `length` says how many trees stand together at a place and are
not cut, at least one. -/
def splitTrees (isSeparator : TokenTree → Bool) (length : List TokenTree → Nat)
    (held : List TokenTree) : List TokenTree → List (List TokenTree)
  | [] => [held]
  | t :: ts =>
    if isSeparator t then held :: splitTrees isSeparator length [] ts
    else
      let further := length (t :: ts) - 1
      splitTrees isSeparator length (held ++ t :: ts.take further) (ts.drop further)
termination_by trees => trees.length
decreasing_by
  · simp
  · simp only [List.length_drop, List.length_cons]; omega

/-- The lists between commas outside of angle brackets. -/
def splitCommas (trees : List TokenTree) : List (List TokenTree) :=
  (splitTrees (isSymbol ",") angleLength [] trees).filter fun piece => !piece.isEmpty

/-- The length of type arguments in an expression, whose symbols are `symbols` besides the angle
brackets. Brackets around anything else are comparisons. -/
def argumentsLength (symbols : List String) (trees : List TokenTree) : Nat :=
  let list := trees.take (angleLength trees)
  let isPart (t : TokenTree) : Bool :=
    t.word?.isSome || t.isSymbolIn ("<" :: ">" :: symbols) || t.isSquare || t.isParens
  if list.all isPart && list.getLast?.any (isSymbol ">") then list.length else 0

/-- The number of trees in front of the first on which `p` holds, outside of angle brackets. -/
def lengthUntil (p : TokenTree → Bool) (depth : Nat) : List TokenTree → Nat
  | [] => 0
  | t :: ts =>
    if depth = 0 && p t then 0
    else if t.isSymbol "<" then 1 + lengthUntil p (depth + 1) ts
    else if t.isSymbol ">" then 1 + lengthUntil p (depth - 1) ts
    else 1 + lengthUntil p depth ts

/-- The number of trees up to and with the first on which `p` holds, or of all. -/
def lengthThrough (p : TokenTree → Bool) : List TokenTree → Nat
  | [] => 0
  | t :: ts => if p t then 1 else 1 + lengthThrough p ts

end ClassGraph.Source
