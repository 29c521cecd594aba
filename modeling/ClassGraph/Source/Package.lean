import ClassGraph.Source.TokenTree

/-!
# Packages

The package that a source text declares, read from its first declaration of one.
-/

namespace ClassGraph.Source

/-- The name in the text of a package declaration. -/
def packageName (written : List Char) : String :=
  let bare := Text.dropRepeated "package".toList (Text.trim written)
  String.ofList (Text.trim (Text.dropEndWhile (· == ';') bare))

/-- The package that the outermost trees of a source text declare first; `length` says how many
trees the declaration has that a list of trees starts with. -/
def package? (length : List TokenTree → Nat) : List TokenTree → Option String
  | [] => none
  | t :: ts =>
    match length (t :: ts) with
    | 0 => package? length ts
    | length => some (packageName (TokenTree.text ((t :: ts).take length)))

end ClassGraph.Source
