import ClassGraph.Source.Java.Model
import ClassGraph.Source.Kotlin.Model
import ClassGraph.Source.Language

/-!
# Extraction

The class models of source texts, by the language of each.
-/

namespace ClassGraph.Source

/-- The class models of a source text. -/
def extract (settings : Extraction) (language : Language) (source : String) : List Classifier :=
  match language with
  | .java => Java.classifiers settings source
  | .kotlin => Kotlin.classifiers settings source

/-- The class models of files, each a path with its text. Files of no known language are passed
over. -/
def extractAll (settings : Extraction) (files : List (String × String)) : List Classifier :=
  files.flatMap fun (path, source) =>
    (Language.ofPath? path).elim [] fun language => extract settings language source

end ClassGraph.Source
