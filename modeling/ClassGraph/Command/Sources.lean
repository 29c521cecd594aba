import ClassGraph.Command.Arguments
import ClassGraph.Failure
import ClassGraph.Files.Ignore
import ClassGraph.Source.Language

/-!
# Sources

The source files that a selection means: one file, or the files of a folder that are not ignored,
with the languages and globs that are asked for.
-/

namespace ClassGraph.Command

/-- The extensions of all source files, as they are shown. -/
def shownExtensions : String := ", ".intercalate Language.supportedExtensions

/-- The languages that a selection means: that of a name or extension, or all of them. -/
def Selection.languages (s : Selection) : Except Failure (List Language) :=
  match s.language with
  | none => .ok Language.all
  | some name =>
    match Language.ofName? name <|> Language.ofExtension? name with
    | some language => .ok [language]
    | none => .error { message := s!"unsupported language: {name}" }

/-- The globs that an option was given. -/
def globsOf (option : String) (globs : List String) : Except Failure (List Glob) :=
  globs.mapM fun glob =>
    match Glob.parse false glob.toList with
    | .ok g => .ok g
    | .error e => .error ⟨s!"invalid {option} glob: {glob}", [e.message glob]⟩

/-- Whether a path is that of a source file in one of some languages. -/
def isSource (languages : List Language) (path : String) : Bool :=
  (Language.ofPath? path).any languages.contains

/-- The source files in a folder, each a path from there with its content. -/
def Selection.filesIn (s : Selection) (languages : List Language) (root : Entry)
    (names : List String) : Except Failure (List (String × String)) := do
  let including ← globsOf "--include" s.including
  let excluding ← globsOf "--exclude" s.excluding
  let files := (root.visibleFiles names).map fun (names, content) =>
    ("/".intercalate names, content)
  return files.filter fun (path, _) =>
    let bytes := Glob.bytes path.toList
    let isIn (globs : List Glob) : Bool := globs.any fun g => g.covers false bytes
    isSource languages path && (including.isEmpty || isIn including) && !isIn excluding

/-- The source files that a selection means, each a path with its content. There is one at
least. -/
def Selection.files (s : Selection) (w : Workspace) : Except Failure (List (String × String)) := do
  let languages ← s.languages
  let files ←
    match w.locate? s.path with
    | some (_, .file content) =>
      if isSource languages s.path then pure [(s.path, content)]
      else
        throw { message :=
          s!"{s.path} is not a supported source file (extensions: {shownExtensions})" }
    | some (names, .folder _) => s.filesIn languages w.root names
    | none => throw { message := s!"{s.path} does not exist" }
  if files.isEmpty then
    throw { message :=
      s!"No source files found in {s.path}. Supported extensions: {shownExtensions}" }
  return files

end ClassGraph.Command
