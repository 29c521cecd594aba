import ClassGraph.Command.Run

/-!
# The program

Reads the files that a command line speaks of into a workspace, runs the command there, and stores
the files that the command has written.
-/

namespace ClassGraph.Program

open Command

/-- The names of a path from the outermost folder. -/
def namesOf (current path : String) : List String :=
  let all := if path.startsWith "/" then path else current ++ "/" ++ path
  (Entry.namesOf all).foldl (fun names part =>
    if part = "." then names else if part = ".." then names.dropLast else names ++ [part]) []

/-- The path of names from the outermost folder. -/
def pathOf (names : List String) : String := String.join (names.map ("/" ++ ·))

/-- What stands at a path, as a list of files; folders are searched when `isDeep` holds. What cannot
be read is left out. -/
partial def readAt (isDeep : Bool) (path : String) : IO (List (String × String)) := do
  let place := (← IO.currentDir) / path
  if ← place.isDir then
    let mut found := [(path ++ "/", "")]
    if isDeep then
      for entry in ← place.readDir do
        found := found ++ (← readAt true (path ++ "/" ++ entry.fileName))
    return found
  else
    try return [(path, ← IO.FS.readFile place)]
    catch _ => return []

/-- The paths of the rules on ignored files in the folders above some names. -/
def rulePaths (names : List String) : List String :=
  (List.range names.length).flatMap fun depth =>
    [".relgraphignore", ".ignore", ".gitignore", ".git", ".jj", ".git/info/exclude"].map fun rule =>
      pathOf (names.take depth) ++ "/" ++ rule

/-- The paths of everything else that arguments speak of. -/
def sidePaths (a : Arguments) : List String :=
  let path := a.selection.path
  let folders := a.project.toList ++ [".", path] ++ (Path.parent? path).toList
  let output := match a.action with
    | .convert output .. => output.toList ++ (output.bind Path.parent?).toList
    | _ => []
  folders.map (· ++ "/.relgraph/config.toml") ++ output

/-- The workspace that arguments speak of. -/
def readWorkspace (a : Arguments) : IO Workspace := do
  let current := toString (← IO.currentDir)
  let names := namesOf current a.selection.path
  let sides := (sidePaths a).map fun path => pathOf (namesOf current path)
  let mut files ← readAt true (pathOf names)
  for path in rulePaths names ++ sides do
    files := files ++ (← readAt false path)
  return { root := .ofFiles files, current := namesOf current "", currentPath := current }

/-- The variables of the environment that state settings. -/
def readEnvironment : IO (List (String × String)) :=
  Settings.variableNames.filterMapM fun name => do
    return (← IO.getEnv name).map fun value => (name, value)

/-- Stores the files that are new or changed. -/
def store (before after : Entry) : IO Unit := do
  for (names, content) in Entry.filesSince before after do
    IO.FS.createDirAll (pathOf names.dropLast)
    IO.FS.writeFile (pathOf names) content

end ClassGraph.Program

open ClassGraph in
/-- Runs a command line. -/
def main (words : List String) : IO UInt32 := do
  let w ← match Command.Arguments.parse words with
    | .ok a => Program.readWorkspace a
    | .error _ => pure { root := .folder [], currentPath := "" }
  let o := Command.run w (← Program.readEnvironment) words
  Program.store w.root o.workspace.root
  (← IO.getStdout).putStr o.output
  (← IO.getStderr).putStr o.messages
  return o.status.code.toUInt32
