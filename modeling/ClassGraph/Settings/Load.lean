import ClassGraph.Settings
import ClassGraph.Text.Basic
import ClassGraph.Toml.Reader

/-!
# Loading settings

Settings are stored as TOML. What is not stored holds by default, and variables of the environment
prevail over what is stored. Settings that no diagram can be laid out with are refused.
-/

namespace ClassGraph

/-- Why settings cannot be loaded. -/
inductive SettingsError where
  /-- What is stored is no TOML, or a setting has a value of another kind. -/
  | malformed
  /-- The kind of lines is blank. -/
  | blankLineType
  /-- A distance is zero. -/
  | noSpacing (node rank : Nat)
deriving DecidableEq, Repr

namespace SettingsError

/-- The text of an error. -/
def message : SettingsError → String
  | .malformed => "the stored settings cannot be read"
  | .blankLineType => "render.linetype must not be empty"
  | .noSpacing node rank =>
    "render spacing must be positive (nodesep " ++ toString node ++ ", ranksep " ++
      toString rank ++ ")"

end SettingsError

/-- The bound of distances, which have 32 bits. -/
def distanceBound : Nat := Nat.pow 2 32

/-- The bound of counts, which have 64 bits. -/
def countBound : Nat := Nat.pow 2 64

namespace Settings

/-- A group of settings as it is stored: the value of each setting by its name and its position. A
table states settings by name, an array by position, and a date or time states none. -/
def group? : Toml → Option (String → Nat → Option Toml)
  | .table _ members => some fun name _ => members.lookup name
  | .array items => some fun _ position => items[position]?
  | .moment => some fun _ _ => none
  | _ => none

/-- The setting that a stored value is, or the default where none is stored. -/
def orDefault? {α : Type} (read? : Toml → Option α) (default : α) : Option Toml → Option α
  | none => some default
  | some value => read? value

/-- The settings of the extraction in a stored value. -/
def extraction? (value : Toml) : Option Extraction := do
  let stored ← group? value
  let default : Extraction := {}
  return {
    extraPrimitives :=
      ← orDefault? Toml.texts? default.extraPrimitives (stored "extra_primitive_types" 0)
    extraCollections :=
      ← orDefault? Toml.texts? default.extraCollections (stored "extra_collection_types" 1)
    includeExternal :=
      ← orDefault? Toml.truth? default.includeExternal (stored "include_external_types" 2) }

/-- The settings of the layout in a stored value. -/
def layout? (value : Toml) : Option Layout := do
  let stored ← group? value
  let default : Layout := {}
  let distance? := Toml.natural? distanceBound
  return {
    title := ← orDefault? (fun t => t.text?.map some) default.title (stored "title" 0)
    nodeSeparation := ← orDefault? distance? default.nodeSeparation (stored "base_nodesep" 1)
    rankSeparation := ← orDefault? distance? default.rankSeparation (stored "base_ranksep" 2)
    largeThreshold :=
      ← orDefault? (Toml.natural? countBound) default.largeThreshold
        (stored "large_diagram_threshold" 3)
    largeNodeBonus := ← orDefault? distance? default.largeNodeBonus (stored "large_nodesep_bonus" 4)
    largeRankBonus := ← orDefault? distance? default.largeRankBonus (stored "large_ranksep_bonus" 5)
    lineType := ← orDefault? Toml.text? default.lineType (stored "linetype" 6) }

/-- The settings that a text stores. -/
def ofText? (stored : String) : Option Settings := do
  let members ← Toml.parse? stored
  return {
    extraction := ← orDefault? extraction? {} (members.lookup "extraction")
    layout := ← orDefault? layout? {} (members.lookup "render") }

/-- The distance that a text writes in decimal digits, with or without a plus in front. -/
def distance? (s : String) : Option Nat :=
  let digits := match s.toList with
    | '+' :: digits => digits
    | digits => digits
  if Text.isDigits digits then (Text.number? 10 digits).filter (· < distanceBound) else none

/-- The truth value that a text names. -/
def truth? : String → Option Bool
  | "true" => some true
  | "false" => some false
  | _ => none

/-- The variables of the environment that state settings. -/
def variableNames : List String :=
  ["RELGRAPH_NODESEP", "RELGRAPH_RANKSEP", "RELGRAPH_LINETYPE", "RELGRAPH_INCLUDE_EXTERNAL"]

/-- The settings with those of the environment, which prevail. A variable whose value cannot be read
changes nothing. -/
def override (s : Settings) (environment : List (String × String)) : Settings :=
  let node := (environment.lookup "RELGRAPH_NODESEP").bind distance?
  let rank := (environment.lookup "RELGRAPH_RANKSEP").bind distance?
  let lineType := environment.lookup "RELGRAPH_LINETYPE"
  let includeExternal := (environment.lookup "RELGRAPH_INCLUDE_EXTERNAL").bind truth?
  { extraction := {
      s.extraction with includeExternal := includeExternal.getD s.extraction.includeExternal }
    layout := {
      s.layout with
      nodeSeparation := node.getD s.layout.nodeSeparation
      rankSeparation := rank.getD s.layout.rankSeparation
      lineType := lineType.getD s.layout.lineType } }

/-- Why settings are refused, if they are. -/
def fault? (s : Settings) : Option SettingsError :=
  if (Text.trim s.layout.lineType.toList).isEmpty then some .blankLineType
  else if s.layout.nodeSeparation = 0 ∨ s.layout.rankSeparation = 0 then
    some (.noSpacing s.layout.nodeSeparation s.layout.rankSeparation)
  else none

/-- The settings that hold for what is stored, if anything is, in an environment. -/
def load (stored : Option String) (environment : List (String × String)) :
    Except SettingsError Settings := do
  let base ←
    match stored with
    | none => pure {}
    | some text =>
      match ofText? text with
      | some settings => pure settings
      | none => throw .malformed
  let settings := base.override environment
  match settings.fault? with
  | some error => throw error
  | none => return settings

end Settings

end ClassGraph
