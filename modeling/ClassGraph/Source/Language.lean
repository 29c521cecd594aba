import ClassGraph.Files.Path

/-!
# Source languages

The languages whose declarations can be read, by their names and by the extensions of their files.
-/

namespace ClassGraph

/-- A language that class models are extracted from. -/
inductive Language where
  /-- Java. -/
  | java
  /-- Kotlin. -/
  | kotlin
deriving DecidableEq, Repr, Inhabited

namespace Language

/-- Every language. -/
def all : List Language := [.java, .kotlin]

/-- The name of a language. -/
def name : Language → String
  | .java => "java"
  | .kotlin => "kotlin"

/-- The extensions of the files of a language. -/
def extensions : Language → List String
  | .java => ["java"]
  | .kotlin => ["kt", "kts"]

/-- The language that a name stands for, capitals or not. -/
def ofName? (name : String) : Option Language :=
  match Text.toLowerAscii name with
  | "java" => some .java
  | "kotlin" | "kt" => some .kotlin
  | _ => none

/-- The language of the files with an extension, capitals or not. -/
def ofExtension? (extension : String) : Option Language :=
  all.find? fun language => language.extensions.contains (Text.toLowerAscii extension)

/-- The language of a file, by the extension of its path. -/
def ofPath? (path : String) : Option Language := do
  ofExtension? (← Path.extension? path)

/-- Every extension of a source file. -/
def supportedExtensions : List String := all.flatMap extensions

end Language

end ClassGraph
