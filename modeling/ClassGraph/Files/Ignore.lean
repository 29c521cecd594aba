import ClassGraph.Files.Glob
import ClassGraph.Files.Workspace

/-!
# Ignored files

Files in a folder can say what is to be passed over there and below. A later line prevails over an
earlier one, an inner folder over an outer one, and the rules of this program over those of others.
A name that starts with a dot is passed over unless a rule keeps it.
-/

namespace ClassGraph

/-- What a rule says of the paths that it speaks of. -/
inductive Verdict where
  /-- They are passed over. -/
  | ignored
  /-- They are kept. -/
  | kept
deriving DecidableEq, Repr

/-- A rule on paths. -/
structure IgnoreRule where
  /-- The paths that it speaks of. -/
  glob : Glob
  /-- What it says of them. -/
  verdict : Verdict
  /-- Whether it speaks of folders only. -/
  isForFolders : Bool

namespace IgnoreRule

/-- A glob without the slash at its end, and whether there was one. An escape in front of it goes
with it. -/
def splitEnd (glob : List Char) : List Char × Bool :=
  match glob.reverse with
  | '/' :: '\\' :: front => (front.reverse, true)
  | '/' :: front => (front.reverse, true)
  | _ => (glob, false)

/-- The glob that a rule means: one without a slash holds at any depth, and one that ends in stars
for what is in a folder does not mean the folder. -/
def complete (isAnchored : Bool) (glob : List Char) : List Char :=
  let anywhere := !isAnchored && !glob.contains '/' && glob ≠ "**".toList
  let glob := if anywhere then "**/".toList ++ glob else glob
  if "/**".toList.isSuffixOf glob then glob ++ "/*".toList else glob

/-- The rule that a line states; none for a blank line, a comment and a line that is no glob. -/
def ofLine? (line : List Char) : Option IgnoreRule := do
  if line.head? = some '#' then none
  let line := if "\\ ".toList.isSuffixOf line then line else Text.trimEnd line
  if line.isEmpty then none
  let isEscaped := "\\!".toList.isPrefixOf line || "\\#".toList.isPrefixOf line
  let line := if isEscaped then line.tail else line
  let isKept := !isEscaped && line.head? = some '!'
  let line := if isKept then line.tail else line
  let isAnchored := !isEscaped && line.head? = some '/'
  let line := if isAnchored then line.tail else line
  let (line, isForFolders) := splitEnd line
  let glob ← (Glob.parse true (complete isAnchored line)).toOption
  return { glob, verdict := if isKept then .kept else .ignored, isForFolders }

/-- The rules in the content of a file. -/
def ofContent (content : String) : List IgnoreRule :=
  let chars := match content.toList with
    | '\ufeff' :: chars => chars
    | chars => chars
  (Text.lines chars).filterMap ofLine?

/-- What rules say of a path: the last one that speaks of it decides. -/
def decide? (rules : List IgnoreRule) (path : List UInt8) (isFolder : Bool) : Option Verdict :=
  let speaks (rule : IgnoreRule) : Bool :=
    (isFolder || !rule.isForFolders) && rule.glob.covers true path
  (rules.reverse.find? speaks).map IgnoreRule.verdict

end IgnoreRule

/-- The rules in a folder. -/
structure IgnoreLayer where
  /-- The names that lead to the folder. -/
  names : List String
  /-- The rules for this program. -/
  own : List IgnoreRule
  /-- The rules for any program. -/
  general : List IgnoreRule
  /-- The rules for the repository. -/
  shared : List IgnoreRule
  /-- The rules for this copy of the repository. -/
  personal : List IgnoreRule
  /-- Whether the folder is the root of a repository. -/
  isRepository : Bool

namespace IgnoreLayer

/-- The rules in a folder that holds some entries. -/
def ofEntries (names : List String) (entries : List (String × Entry)) : IgnoreLayer :=
  let rulesAt (path : List String) : List IgnoreRule :=
    (((Entry.folder entries).at? path).bind Entry.content?).elim [] IgnoreRule.ofContent
  { names
    own := rulesAt [".relgraphignore"]
    general := rulesAt [".ignore"]
    shared := rulesAt [".gitignore"]
    personal := rulesAt [".git", "info", "exclude"]
    isRepository := (entries.lookup ".git").isSome || (entries.lookup ".jj").isSome }

/-- The bytes of a path of names, seen from the folder of a layer. -/
def pathFrom (layer : IgnoreLayer) (names : List String) : List UInt8 :=
  Glob.bytes ("/".intercalate (names.drop layer.names.length)).toList

/-- The layers up to the root of the innermost repository, and none outside of repositories. -/
def inRepository (layers : List IgnoreLayer) : List IgnoreLayer :=
  if layers.any isRepository then
    let inner := layers.takeWhile fun layer => !layer.isRepository
    layers.take (inner.length + 1)
  else []

/-- What some of the rules in layers say of a path of names: the innermost layer with a verdict
decides. -/
def decide? (rules : IgnoreLayer → List IgnoreRule) (names : List String) (isFolder : Bool)
    (layers : List IgnoreLayer) : Option Verdict :=
  layers.findSome? fun layer =>
    IgnoreRule.decide? (rules layer) (layer.pathFrom names) isFolder

/-- Whether an entry is passed over; the layers are those of the folders around it, innermost
first. -/
def isIgnored (layers : List IgnoreLayer) (names : List String) (isFolder : Bool) : Bool :=
  let repository := inRepository layers
  let verdict :=
    decide? own names isFolder layers <|> decide? general names isFolder layers <|>
      decide? shared names isFolder repository <|> decide? personal names isFolder repository
  match verdict with
  | some verdict => verdict = .ignored
  | none => (names.getLast?.bind fun name => name.toList.head?) = some '.'

end IgnoreLayer

mutual

/-- The files of an entry that are not passed over. -/
def Entry.visibleFrom (layers : List IgnoreLayer) (names : List String) :
    Entry → List (List String × String)
  | .file content => [(names, content)]
  | .folder entries =>
    visibleOfEntries (IgnoreLayer.ofEntries names entries :: layers) names entries

/-- The files in some entries of a folder that are not passed over. -/
def Entry.visibleOfEntries (layers : List IgnoreLayer) (names : List String) :
    List (String × Entry) → List (List String × String)
  | [] => []
  | (name, entry) :: more =>
    let here := names ++ [name]
    (if IgnoreLayer.isIgnored layers here entry.isFolder then []
      else visibleFrom layers here entry) ++ visibleOfEntries layers names more

end

/-- The layers of the folders above a path of names, innermost first. -/
def IgnoreLayer.above (root : Entry) (names : List String) : List IgnoreLayer :=
  (List.range names.length).reverse.map fun depth =>
    let outer := names.take depth
    ofEntries outer (((root.at? outer).map Entry.entries).getD [])

/-- The files below a path of names that are not passed over, each with its names from there. The
entry itself is never passed over. -/
def Entry.visibleFiles (root : Entry) (names : List String) : List (List String × String) :=
  ((root.at? names).elim [] fun entry =>
      entry.visibleFrom (IgnoreLayer.above root names) names).map
    fun (path, content) => (path.drop names.length, content)

end ClassGraph
