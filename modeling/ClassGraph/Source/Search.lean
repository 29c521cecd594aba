import ClassGraph.Source.TokenTree
import ClassGraph.Source.TypeRef

/-!
# The search for declarations

Declarations stand at any depth of a source text. They are found in the order of the text, and the
body of one is searched for more of them; what stands in front of its body is not. The names of
type parameters are in scope in the body of their declaration.
-/

namespace ClassGraph.Source

/-- A declaration at the beginning of a list of trees. -/
structure Found (δ : Type) where
  /-- What is declared. -/
  declaration : δ
  /-- The names of the type parameters that are in scope in it, its own last. -/
  scope : List String
  /-- The number of its trees. -/
  length : Nat
  /-- Whether the last of its trees is its body. -/
  hasBody : Bool

/-- How the declarations of a language look. -/
structure Notion (δ : Type) where
  /-- The declaration that a list of trees starts with, in a scope. The flag says that the list
  stands outside of all brackets. -/
  start? : Bool → List String → List TokenTree → Option (Found δ)
  /-- Whether the tree behind this one starts no declaration. -/
  bars : TokenTree → Bool

/-- What is left of a declaration behind its first tree: for each tree the scope to search it in,
or none when it is passed over. -/
def Found.pending {δ : Type} (found : Found δ) : List (Option (List String)) :=
  if found.hasBody then List.replicate (found.length - 2) none ++ [some found.scope]
  else List.replicate (found.length - 1) none

mutual

/-- The declarations in a list of trees. Inside of a declaration `pending` says what to do with the
next trees. -/
def searchFrom {δ : Type} (notion : Notion δ) (outermost : Bool) (scope : List String)
    (pending : List (Option (List String))) (barred : Bool) : List TokenTree → List δ
  | [] => []
  | t :: ts =>
    match pending with
    | none :: more => searchFrom notion outermost scope more false ts
    | some inner :: more =>
      searchWithin notion inner t ++ searchFrom notion outermost scope more false ts
    | [] =>
      match if barred then none else notion.start? outermost scope (t :: ts) with
      | some found =>
        found.declaration :: searchFrom notion outermost scope found.pending false ts
      | none =>
        searchWithin notion scope t ++ searchFrom notion outermost scope [] (notion.bars t) ts

/-- The declarations in a group. -/
def searchWithin {δ : Type} (notion : Notion δ) (scope : List String) : TokenTree → List δ
  | .leaf _ => []
  | .group _ children _ => searchFrom notion false scope [] false children

end

/-- Every declaration in the trees of a source text. -/
def search {δ : Type} (notion : Notion δ) (trees : List TokenTree) : List δ :=
  searchFrom notion true [] [] false trees

end ClassGraph.Source
