import ClassGraph.Command.Sources
import ClassGraph.Diagram.Format
import ClassGraph.Report.Findings
import ClassGraph.Report.Impact
import ClassGraph.Report.Statistics
import ClassGraph.Settings.Load
import ClassGraph.Source.Extract

/-!
# Running a command

What a command line does in a workspace: the texts that it writes, whether it succeeds, and the
workspace behind it.
-/

namespace ClassGraph.Command

/-- How a command ends. -/
inductive Status where
  /-- It has done what it was asked for. -/
  | success
  /-- It has failed. -/
  | failure
  /-- It was asked for nothing that can be done. -/
  | misuse
deriving DecidableEq, Repr, Inhabited

/-- The number that stands for a status. -/
def Status.code : Status → Nat
  | .success => 0
  | .failure => 1
  | .misuse => 2

/-- What a command has done. -/
structure Outcome where
  /-- How it has ended. -/
  status : Status := .success
  /-- What it reports. -/
  output : String := ""
  /-- What it says besides. -/
  messages : String := ""
  /-- The files behind it. -/
  workspace : Workspace

/-- Lines as a text. -/
def textOfLines (lines : List String) : String := String.join (lines.map (· ++ "\n"))

/-- What is shown to who asks for help. -/
def helpText : String :=
  textOfLines [
    "Typed class relationship graphs from Java and Kotlin sources",
    "",
    "Usage: relgraph [-p <folder>] <command> <path>",
    "",
    "Commands:",
    "  convert  Render a class diagram",
    "  check    Report ownership and role-contract violations",
    "  impact   Show what deleting an instance of a class takes with it",
    "  info     Show class, entity and edge statistics"]

namespace Outcome

/-- The outcome of a command that fails. -/
def fail (w : Workspace) (f : Failure) : Outcome :=
  { status := .failure, messages := f.report, workspace := w }

/-- The outcome with a text in front of what is said. -/
def after (text : String) (o : Outcome) : Outcome := { o with messages := text ++ o.messages }

end Outcome

/-- The folder of the settings: the one that is named, or the one of the sources, or else the
current folder. -/
def Arguments.settingsFolder? (a : Arguments) (w : Workspace) : Option String :=
  let path := a.selection.path
  a.project <|> if w.isFolder path then some path
    else (Path.parent? path).filter fun parent => !parent.isEmpty

/-- What is stored in the folder of the settings, if anything is. -/
def storedSettings (w : Workspace) (folder : Option String) : Except FileError (Option String) :=
  let config := ".relgraph/config.toml"
  match w.locate? (folder.elim config fun folder => folder ++ "/" ++ config) with
  | none => .ok none
  | some (_, .file content) => .ok (some content)
  | some (_, .folder _) => .error .isFolder

/-- The settings that a command runs with. -/
def Arguments.settings (a : Arguments) (w : Workspace) (environment : List (String × String)) :
    Except Failure Settings :=
  let folder := a.settingsFolder? w
  let refuse (cause : String) : Except Failure Settings :=
    .error ⟨s!"failed to load config from {folder.getD w.currentPath}", [cause]⟩
  match storedSettings w folder with
  | .error e => refuse e.message
  | .ok stored =>
    match Settings.load stored environment with
    | .ok settings => .ok settings
    | .error e => refuse e.message

/-- What a command does with the classes of a selection. -/
def withClasses (w : Workspace) (settings : Settings) (selection : Selection)
    (act : List Classifier → Outcome) : Outcome :=
  match selection.files w with
  | .error f => .fail w f
  | .ok files =>
    let classes := Source.extractAll settings.extraction files
    (act classes).after s!"Parsed {classes.length} classes from {files.length} files\n"

/-- What a command does with the classes of a selection and their graph. -/
def withGraph (w : Workspace) (settings : Settings) (selection : Selection)
    (act : List Classifier → Instantiation → Outcome) : Outcome :=
  withClasses w settings selection fun classes =>
    match failWithin "failed to build entity graph" (instantiate settings.extraction classes) with
    | .error f => .fail w f
    | .ok i => act classes i

/-- The format of a diagram: the one that is named, or the one of the file to write. -/
def diagramFormat (output format : Option String) : Except Failure Diagram.Format :=
  match format with
  | some name =>
    match Diagram.Format.parse? name with
    | some format => .ok format
    | none => .error { message := Diagram.Format.unknownMessage name }
  | none => .ok ((output.bind Diagram.Format.ofPath?).getD .puml)

/-- The workspace with a diagram in a file, whose folder is made if it is missing. -/
def writeDiagram (w : Workspace) (path text : String) : Except Failure Workspace := do
  let w ←
    match (Path.parent? path).filter fun parent => !parent.isEmpty with
    | none => pure w
    | some parent =>
      match w.makeFolder parent with
      | .ok w => pure w
      | .error e => throw ⟨s!"failed to create {parent}", [e.message]⟩
  match w.putFile path text with
  | .ok w => return w
  | .error e => throw ⟨s!"failed to write {path}", [e.message]⟩

/-- Writes the classes of a selection as a diagram. Its title is the one that is asked for, or the
one of the settings, or the name of the file. -/
def runConvert (w : Workspace) (settings : Settings) (selection : Selection)
    (output format title : Option String) : Outcome :=
  match diagramFormat output format with
  | .error f => .fail w f
  | .ok format =>
    let path := output.getD ("diagram." ++ format.name)
    let title := title <|> settings.layout.title <|> Path.stem? path
    let settings := { settings with layout := { settings.layout with title } }
    withClasses w settings selection fun classes =>
      match Diagram.render settings format classes with
      | .error f => .fail w f
      | .ok text =>
        match writeDiagram w path text with
        | .error f => .fail w f
        | .ok w => { messages := s!"Wrote {format.name} diagram to {path}\n", workspace := w }

/-- Reports what the classes of a selection violate, and fails if they violate anything. -/
def runCheck (w : Workspace) (settings : Settings) (selection : Selection) : Outcome :=
  withGraph w settings selection fun _ i =>
    let findings := Findings.ofInstantiation i
    let output := textOfLines findings.lines
    if findings.count = 0 then { output, workspace := w }
    else { Outcome.fail w { message := s!"{findings.count} issue(s) found" } with output }

/-- Reports the impact of a class. -/
def runImpact (w : Workspace) (settings : Settings) (selection : Selection)
    (className : String) : Outcome :=
  withGraph w settings selection fun classes i =>
    match Impact.ofClass classes i className with
    | .error e => .fail w { message := e.message }
    | .ok impact => { output := textOfLines impact.lines, workspace := w }

/-- Reports statistics on the classes of a selection. -/
def runInfo (w : Workspace) (settings : Settings) (selection : Selection) : Outcome :=
  withGraph w settings selection fun classes i =>
    { output := textOfLines (Statistics.lines classes i), workspace := w }

/-- What arguments do. -/
def Arguments.run (a : Arguments) (w : Workspace) (environment : List (String × String)) :
    Outcome :=
  match a.settings w environment with
  | .error f => .fail w f
  | .ok settings =>
    match a.action with
    | .convert output format title => runConvert w settings a.selection output format title
    | .check => runCheck w settings a.selection
    | .impact className => runImpact w settings a.selection className
    | .info => runInfo w settings a.selection

/-- What a command line does in a workspace. -/
def run (w : Workspace) (environment : List (String × String)) (words : List String) : Outcome :=
  match Arguments.parse words with
  | .ok a => a.run w environment
  | .error .help => { output := helpText, workspace := w }
  | .error .wrong => { status := .misuse, messages := helpText, workspace := w }

end ClassGraph.Command
