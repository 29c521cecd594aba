import ClassGraph.Text.Basic

/-!
# Paths

A path names a file by parts between slashes. Slashes at its end and parts that are a single dot
there do not count; what then stands behind the last slash is the file name.
-/

namespace ClassGraph.Path

/-- A path, read backwards, without the slashes and single dots that it ends in. -/
def dropEnd : List Char → List Char
  | ['/'] => ['/']
  | '/' :: rest => dropEnd rest
  | '.' :: '/' :: rest => dropEnd ('/' :: rest)
  | path => path

/-- A path without the slashes and single dots that it ends in. -/
def trimEnd (path : List Char) : List Char := (dropEnd path.reverse).reverse

/-- The file name of a path: its last part, when that names something. -/
def fileName? (path : List Char) : Option (List Char) :=
  let last := Text.afterLast '/' (trimEnd path)
  if last = [] ∨ last = ['.'] ∨ last = ['.', '.'] then none else some last

/-- A file name cut at its last dot. A dot in front of everything does not cut. -/
def cutName (name : List Char) : List Char × Option (List Char) :=
  let after := Text.afterLast '.' name
  let before := name.take (name.length - after.length - 1)
  if before.isEmpty then (name, none) else (before, some after)

/-- The text behind the last dot of the file name. -/
def extension? (path : String) : Option String := do
  let name ← fileName? path.toList
  String.ofList <$> (cutName name).2

/-- The file name without its extension. -/
def stem? (path : String) : Option String := do
  let name ← fileName? path.toList
  return String.ofList (cutName name).1

/-- The path of the directory that holds what a path names; the path of a name that stands alone
is empty. -/
def parent? (path : String) : Option String :=
  match trimEnd path.toList with
  | [] => none
  | ['/'] => none
  | all =>
    let front := all.take (all.length - (Text.afterLast '/' all).length)
    some (String.ofList (trimEnd front))

end ClassGraph.Path
