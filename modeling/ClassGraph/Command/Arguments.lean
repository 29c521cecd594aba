import ClassGraph.Text.Basic

/-!
# Arguments

The words of a command line are a verb, options with a value each, and operands. `Arguments.parse`
reads them from left to right, and the first word that is wrong decides.
-/

namespace ClassGraph.Command

/-- What is to be done. -/
inductive Verb where
  /-- Write a diagram. -/
  | convert
  /-- Report what the classes violate. -/
  | check
  /-- Report the impact of a class. -/
  | impact
  /-- Report statistics. -/
  | info
deriving DecidableEq, Repr, Inhabited

namespace Verb

/-- The verb that a word names. -/
def ofName? : String → Option Verb
  | "convert" => some .convert
  | "check" => some .check
  | "impact" => some .impact
  | "info" => some .info
  | _ => none

/-- The number of operands of a verb. -/
def operands : Verb → Nat
  | .impact => 2
  | _ => 1

end Verb

/-- What a value is given for. -/
inductive Key where
  /-- The folder of the settings. -/
  | project
  /-- The language of the sources. -/
  | language
  /-- A glob for the files to read. -/
  | including
  /-- A glob for the files to pass over. -/
  | excluding
  /-- The file to write. -/
  | output
  /-- The format of the diagram. -/
  | format
  /-- The title of the diagram. -/
  | title
deriving DecidableEq, Repr, Inhabited

namespace Key

/-- The key that a word behind two hyphens names. -/
def ofWord? : String → Option Key
  | "project" => some .project
  | "lang" => some .language
  | "include" => some .including
  | "exclude" => some .excluding
  | "output" => some .output
  | "format" => some .format
  | "title" => some .title
  | _ => none

/-- The key that a letter behind one hyphen names. -/
def ofLetter? : Char → Option Key
  | 'p' => some .project
  | 'l' => some .language
  | 'o' => some .output
  | 'f' => some .format
  | _ => none

/-- Whether a key may stand behind a verb, or in front of every verb. -/
def appliesTo (verb : Option Verb) : Key → Bool
  | .project => true
  | .language | .including | .excluding => verb.isSome
  | .output | .format | .title => verb = some .convert

/-- Whether a key may be given several times. -/
def isRepeatable : Key → Bool
  | .including | .excluding => true
  | _ => false

/-- Whether the value of a key is a path, which is not empty. -/
def isPath : Key → Bool
  | .project | .output => true
  | _ => false

end Key

/-- Why a command line asks for nothing that can be done. -/
inductive Usage where
  /-- It asks for help. -/
  | help
  /-- It is wrong. -/
  | wrong
deriving DecidableEq, Repr

/-- The words that have been read. -/
structure Given where
  /-- The verb. -/
  verb : Option Verb := none
  /-- The values in front of the verb. -/
  outer : List (Key × String) := []
  /-- The values behind the verb. -/
  values : List (Key × String) := []
  /-- The operands. -/
  operands : List String := []

namespace Given

/-- The words with one more value. -/
def addValue (g : Given) (key : Key) (value : String) : Except Usage Given :=
  let before := if g.verb.isSome then g.values else g.outer
  let isRepeated := !key.isRepeatable && before.any fun (other, _) => other == key
  if !key.appliesTo g.verb || isRepeated || (key.isPath && value.isEmpty) then .error .wrong
  else if g.verb.isSome then .ok { g with values := before ++ [(key, value)] }
  else .ok { g with outer := before ++ [(key, value)] }

/-- The words with one more operand, or with the verb. The first operand is a path. -/
def addOperand (g : Given) (word : String) : Except Usage Given :=
  match g.verb with
  | none =>
    match Verb.ofName? word with
    | some verb => .ok { g with verb }
    | none => .error .wrong
  | some verb =>
    let isFull := g.operands.length ≥ verb.operands
    if isFull || (g.operands.isEmpty && word.isEmpty) then .error .wrong
    else .ok { g with operands := g.operands ++ [word] }

/-- What a word that starts with a hyphen asks for: a key, with the value when that is a part of the
word. -/
def readOption (word : List Char) : Except Usage (Key × Option String) :=
  match word with
  | '-' :: '-' :: long =>
    let name := Text.beforeChar '=' long
    let value := (Text.cutAt? '=' long).map fun (_, value) => String.ofList value
    match Key.ofWord? (String.ofList name) with
    | some key => .ok (key, value)
    | none => .error (if long = "help".toList then .help else .wrong)
  | '-' :: letter :: value =>
    match Key.ofLetter? letter with
    | some key =>
      let bare := if value.head? = some '=' then value.tail else value
      .ok (key, if value.isEmpty then none else some (String.ofList bare))
    | none => .error (if letter = 'h' then .help else .wrong)
  | _ => .error .wrong

/-- Whether a word is an option and no operand or value. -/
def isOption (word : String) : Bool := word.toList.head? = some '-' && word ≠ "-"

/-- The words behind some more of them. Two hyphens end the options. -/
def readFrom (g : Given) : List String → Except Usage Given
  | [] => .ok g
  | word :: words =>
    if word = "--" then
      if g.verb.isSome then words.foldlM addOperand g else .error .wrong
    else if isOption word then
      match readOption word.toList with
      | .error usage => .error usage
      | .ok (key, some value) =>
        match g.addValue key value with
        | .error usage => .error usage
        | .ok g => g.readFrom words
      | .ok (key, none) =>
        match words with
        | [] => .error .wrong
        | value :: words =>
          if isOption value then .error .wrong
          else
            match g.addValue key value with
            | .error usage => .error usage
            | .ok g => g.readFrom words
    else if g.verb.isNone ∧ word = "help" then
      let isKnown := words.all fun word => word = "help" || (Verb.ofName? word).isSome
      .error (if isKnown && words.length ≤ 1 then .help else .wrong)
    else
      match g.addOperand word with
      | .error usage => .error usage
      | .ok g => g.readFrom words

/-- The value that was given last for a key behind the verb, or in front of it. -/
def value? (g : Given) (key : Key) : Option String :=
  g.values.lookup key <|> g.outer.lookup key

/-- All values that were given for a key. -/
def valuesOf (g : Given) (key : Key) : List String :=
  (g.values.filter fun (other, _) => other == key).map Prod.snd

end Given

/-- Which sources are to be read. -/
structure Selection where
  /-- The file or folder. -/
  path : String
  /-- The language, if only one is to be read. -/
  language : Option String := none
  /-- The globs for the files to read; all are read where there is none. -/
  including : List String := []
  /-- The globs for the files to pass over. -/
  excluding : List String := []

/-- What is to be done with the classes. -/
inductive Action where
  /-- Write them as a diagram. -/
  | convert (output format title : Option String)
  /-- Report what they violate. -/
  | check
  /-- Report the impact of one of them. -/
  | impact (className : String)
  /-- Report statistics. -/
  | info

/-- What a command line asks for. -/
structure Arguments where
  /-- The folder of the settings, where one is named. -/
  project : Option String
  /-- The sources. -/
  selection : Selection
  /-- What is to be done with them. -/
  action : Action

/-- What the words of a command line ask for. -/
def Arguments.parse (words : List String) : Except Usage Arguments := do
  let g ← Given.readFrom {} words
  let arguments (path : String) (action : Action) : Arguments := {
    project := g.value? .project
    selection := {
      path
      language := g.value? .language
      including := g.valuesOf .including
      excluding := g.valuesOf .excluding }
    action }
  match g.verb, g.operands with
  | some .convert, [path] =>
    return arguments path (.convert (g.value? .output) (g.value? .format) (g.value? .title))
  | some .check, [path] => return arguments path .check
  | some .impact, [path, className] => return arguments path (.impact className)
  | some .info, [path] => return arguments path .info
  | _, _ => throw .wrong

end ClassGraph.Command
