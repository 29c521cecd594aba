import ClassGraph.Files.Path
import ClassGraph.Keyed

/-!
# Files and folders

A workspace is a tree of folders with a folder in it from which paths are followed. Paths are
followed name by name: `.` stays, `..` goes back, and what a name leads through has to be a folder.
-/

namespace ClassGraph

/-- What a name in a folder stands for. -/
inductive Entry where
  /-- A file with its content. -/
  | file (content : String)
  /-- A folder with what it holds. -/
  | folder (entries : List (String × Entry))
deriving Inhabited

namespace Entry

/-- Whether an entry is a folder. -/
def isFolder : Entry → Bool
  | .folder _ => true
  | .file _ => false

/-- What a folder holds. -/
def entries : Entry → List (String × Entry)
  | .folder entries => entries
  | .file _ => []

/-- The content of a file. -/
def content? : Entry → Option String
  | .file content => some content
  | .folder _ => none

/-- What stands at a path of names. -/
def at? (e : Entry) : List String → Option Entry
  | [] => some e
  | name :: names =>
    match e.entries.lookup name with
    | none => none
    | some e => e.at? names

/-- The entry with `new` at a path of names. Missing folders are made; a file in the way stays. -/
def put (new : Entry) : List String → Entry → Entry
  | [], _ => new
  | _ :: _, .file content => .file content
  | name :: names, .folder entries =>
    let old := (entries.lookup name).getD (.folder [])
    .folder (Keyed.put name (put new names old) entries)

/-- The names of a path. -/
def namesOf (path : String) : List String :=
  ((Text.splitAll '/' path.toList).filter (· ≠ [])).map String.ofList

/-- The folder with some files, each a path with its content. A path that ends in a slash is an
empty folder. -/
def ofFiles (files : List (String × String)) : Entry :=
  files.foldl (fun root (path, content) =>
    let names := namesOf path
    if path.toList.getLast? = some '/' then
      if (root.at? names).isSome then root else put (.folder []) names root
    else put (.file content) names root) (.folder [])

mutual

/-- The files below a path of names, each with its own path of names. -/
def filesFrom (names : List String) : Entry → List (List String × String)
  | .file content => [(names, content)]
  | .folder entries => filesOfEntries names entries

/-- The files in some entries of a folder. -/
def filesOfEntries (names : List String) : List (String × Entry) → List (List String × String)
  | [] => []
  | (name, entry) :: more => filesFrom (names ++ [name]) entry ++ filesOfEntries names more

end

/-- The files of a folder at any depth. -/
def files (e : Entry) : List (List String × String) := filesFrom [] e

/-- The files that are not in `before` with the same content. -/
def filesSince (before after : Entry) : List (List String × String) :=
  after.files.filter fun (names, content) => (before.at? names).bind content? ≠ some content

end Entry

/-- Why a path cannot be followed or written. -/
inductive FileError where
  /-- Nothing has the name. -/
  | missing
  /-- A file stands where a folder is needed. -/
  | notFolder
  /-- A folder stands where a file is needed. -/
  | isFolder
  /-- Something has the name already. -/
  | taken
deriving DecidableEq, Repr

/-- The wording of an error. -/
def FileError.message : FileError → String
  | .missing => "No such file or directory (os error 2)"
  | .notFolder => "Not a directory (os error 20)"
  | .isFolder => "Is a directory (os error 21)"
  | .taken => "File exists (os error 17)"

/-- A tree of folders and the folder that paths start from. -/
structure Workspace where
  /-- The outermost folder. -/
  root : Entry
  /-- The names that lead to the current folder. -/
  current : List String := []
  /-- The path of the current folder, as it is shown. -/
  currentPath : String

namespace Workspace

/-- The path of names that a path starts from. -/
def start (w : Workspace) (path : String) : List String :=
  if path.toList.head? = some '/' then [] else w.current

/-- The parts of a path between its slashes. -/
def parts (path : String) : List String := (Text.splitAll '/' path.toList).map String.ofList

/-- The path of names behind one more part of a path. -/
def follow (root : Entry) (names : List String) (part : String) :
    Except FileError (List String) :=
  match root.at? names with
  | some (.folder entries) =>
    if part = "" ∨ part = "." then .ok names
    else if part = ".." then .ok names.dropLast
    else if (entries.lookup part).isSome then .ok (names ++ [part])
    else .error .missing
  | some (.file _) => .error .notFolder
  | none => .error .missing

/-- What a path leads to, with its path of names. -/
def locate (w : Workspace) (path : String) : Except FileError (List String × Entry) := do
  if path.isEmpty then throw .missing
  let names ← (parts path).foldlM (follow w.root) (w.start path)
  match w.root.at? names with
  | some entry => return (names, entry)
  | none => throw .missing

/-- What a path leads to, if it leads to something. -/
def locate? (w : Workspace) (path : String) : Option (List String × Entry) :=
  (w.locate path).toOption

/-- Whether a path leads to a folder. -/
def isFolder (w : Workspace) (path : String) : Bool := (w.locate? path).any (·.2.isFolder)

/-- The tree and the path of names behind one more part of a path; a missing folder is made. -/
def enter (place : Entry × List String) (part : String) :
    Except FileError (Entry × List String) :=
  match follow place.1 place.2 part with
  | .ok names => .ok (place.1, names)
  | .error .missing =>
    let names := place.2 ++ [part]
    .ok (Entry.put (.folder []) names place.1, names)
  | .error e => .error e

/-- The workspace with the folder that a path names. -/
def makeFolder (w : Workspace) (path : String) : Except FileError Workspace := do
  let (root, names) ← (parts path).foldlM enter (w.root, w.start path)
  if ((root.at? names).any Entry.isFolder) then return { w with root } else throw .taken

/-- The workspace with the file that a path names, in a folder that is there. A path that ends in a
slash names no file. -/
def putFile (w : Workspace) (path content : String) : Except FileError Workspace := do
  let parts := parts path
  let named := (parts.reverse.dropWhile (· == "")).reverse
  let names ← named.dropLast.foldlM (follow w.root) (w.start path)
  let name := named.getLastD ""
  match w.root.at? names with
  | some (.folder entries) =>
    let isName := parts.length = named.length && name != "." && name != ".."
    if !isName || (entries.lookup name).any Entry.isFolder then throw .isFolder
    return { w with root := Entry.put (.file content) (names ++ [name]) w.root }
  | some (.file _) => throw .notFolder
  | none => throw .missing

end Workspace

end ClassGraph
