import ClassGraph.Settings
import ClassGraph.Source.Language
import ClassGraph.Text.Nesting

/-!
# Type references

What the text of a type refers to: a declared type, or nothing for values, type parameters and
function types. Containers and arrays refer to what they hold. The text is read as it stands in the
source, so that one reading serves every language.
-/

namespace ClassGraph

/-- What decides how the text of a type is read. -/
structure TypeScope where
  /-- The language of the text. -/
  language : Language
  /-- The settings of the extraction. -/
  settings : Extraction
  /-- The type parameters that are in scope. -/
  parameters : List String := []

/-- A type text that has been read. -/
structure TypeRef where
  /-- The text with blanks normalized and without the annotations in front of it. -/
  display : String
  /-- The declared type that is referred to. -/
  target : Option String
  /-- Whether the target is what a container or array holds. -/
  isCollection : Bool
deriving DecidableEq, Repr

namespace Language

/-- The types of a language that are values. -/
def primitives : Language → List String
  | .java => ["int", "long", "short", "byte", "float", "double", "boolean", "char", "void", "var",
    "String", "Object", "Integer", "Long", "Short", "Byte", "Boolean", "Double", "Float",
    "Character", "Void"]
  | .kotlin => ["Int", "Long", "Short", "Byte", "Float", "Double", "Boolean", "Char", "String",
    "Any", "Unit", "Nothing"]

end Language

/-- The container types of every language. -/
def containers : List String :=
  ["List", "Set", "Collection", "Map", "ArrayList", "HashSet", "LinkedList", "HashMap", "Array",
    "MutableList", "MutableSet", "MutableMap", "Iterable"]

/-- Whether a name is that of a value type, of the language or of the settings. -/
def isPrimitive (language : Language) (settings : Extraction) (name : String) : Bool :=
  language.primitives.contains name || settings.extraPrimitives.contains name

/-- Whether a name is that of a container, known to all or of the settings. -/
def isCollection (settings : Extraction) (name : String) : Bool :=
  containers.contains name || settings.extraCollections.contains name

namespace TypeRef

open Text

/-- What follows the parenthesis that closes the first one of a text, or nothing. -/
def afterParentheses (depth : Nat) : List Char → List Char
  | [] => []
  | '(' :: cs => afterParentheses (depth + 1) cs
  | ')' :: cs => if depth ≤ 1 then cs else afterParentheses (depth - 1) cs
  | _ :: cs => afterParentheses depth cs

/-- Whether a character may stand in the name of an annotation. -/
def isAnnotationChar (c : Char) : Bool := isNameChar c || c == '.' || c == ':'

/-- What follows an annotation whose `@` has been read. -/
def afterAnnotated (s : List Char) : List Char :=
  match s.dropWhile isAnnotationChar with
  | '(' :: rest => afterParentheses 1 rest
  | rest => rest

/-- What is left behind parentheses is no longer than the text. -/
theorem length_afterParentheses_le (depth : Nat) (s : List Char) :
    (afterParentheses depth s).length ≤ s.length := by
  fun_induction afterParentheses depth s <;> simp_all <;> omega

/-- What is left behind an annotation is no longer than the text. -/
theorem length_afterAnnotated_le (s : List Char) : (afterAnnotated s).length ≤ s.length := by
  have h := (List.dropWhile_sublist isAnnotationChar (l := s)).length_le
  unfold afterAnnotated
  split
  · next rest heq =>
    have := length_afterParentheses_le 1 rest
    rw [heq, List.length_cons] at h
    omega
  · exact h

/-- A text without the blanks and annotations in front of it. -/
def withoutAnnotations (s : List Char) : List Char :=
  match _h : trimStart s with
  | '@' :: rest => withoutAnnotations (afterAnnotated rest)
  | text => text
termination_by s.length
decreasing_by
  have h₁ := length_trimStart_le s
  have h₂ := length_afterAnnotated_le rest
  rw [_h, List.length_cons] at h₁
  omega

/-- Puts a word behind a text. A blank separates them, except behind an opening bracket and in front
of a closing one or a comma; behind a comma there is always one. -/
def appendWord (text word : List Char) : List Char :=
  let last := text.getLast?
  let tight := last.isNone || last == some '<' || last == some '(' ||
    (last != some ',' && ['>', ',', ')'].any (word.head? == some ·))
  if tight then text ++ word else text ++ ' ' :: word

/-- A text with its blanks normalized. -/
def normalized (s : List Char) : List Char := (words s).foldl appendWord []

/-- The marks of variance in front of a type argument. -/
def variances : List String := ["? extends ", "? super ", "out ", "in "]

/-- A type argument without one mark of variance. -/
def withoutMark (s : List Char) (mark : String) : List Char :=
  match mark.toList.isPrefixOf? s with
  | none => s
  | some rest => trimStart rest

/-- A type argument without its marks of variance, each of which is looked for once. -/
def withoutVariance (s : List Char) : List Char := variances.foldl withoutMark s

/-- Whether a text is that of a function type. -/
def isFunctionType (s : List Char) : Bool := containsText "->".toList s

/-- The text between the parentheses around a type that is no function type. -/
def withoutParentheses (s : List Char) : List Char :=
  match "(".toList.isPrefixOf? s with
  | none => s
  | some rest =>
    match ")".toList.isSuffixOf? rest with
    | none => s
    | some inner => if isFunctionType inner then s else inner

/-- The text of a type without variance, question marks and parentheses around it. -/
def core (s : List Char) : List Char :=
  trim (withoutParentheses (trim (dropEndWhile (· == '?') (withoutVariance (trim s)))))

/-- The text of what an array holds. -/
def element? (s : List Char) : Option (List Char) :=
  ("[]".toList.isSuffixOf? s).or ("...".toList.isSuffixOf? s)

/-- The last part of a dotted name. -/
def simpleName (s : List Char) : List Char := trim (afterLast '.' s)

/-- Without a mark of variance a text is no longer. -/
theorem length_withoutMark_le (s : List Char) (mark : String) :
    (withoutMark s mark).length ≤ s.length := by
  unfold withoutMark
  split
  · exact Nat.le_refl _
  · next rest h =>
    have h := congrArg List.length (append_of_isPrefixOf? h)
    have := length_trimStart_le rest
    simp only [List.length_append] at h
    omega

/-- Without its marks of variance a text is no longer. -/
theorem length_withoutVariance_le (s : List Char) : (withoutVariance s).length ≤ s.length := by
  have h (marks : List String) (s : List Char) :
      (marks.foldl withoutMark s).length ≤ s.length := by
    induction marks generalizing s with
    | nil => exact Nat.le_refl _
    | cons mark marks ih => exact Nat.le_trans (ih _) (length_withoutMark_le s mark)
  exact h variances s

/-- Without parentheses around it a text is no longer. -/
theorem length_withoutParentheses_le (s : List Char) :
    (withoutParentheses s).length ≤ s.length := by
  unfold withoutParentheses
  split
  · exact Nat.le_refl _
  · next rest hp =>
    have hp := congrArg List.length (append_of_isPrefixOf? hp)
    split
    · exact Nat.le_refl _
    · next inner hs =>
      have hs := congrArg List.length (append_of_isSuffixOf? hs)
      simp only [List.length_append] at hp hs
      split <;> omega

/-- The core of a text is no longer than the text. -/
theorem length_core_le (s : List Char) : (core s).length ≤ s.length := by
  refine Nat.le_trans (length_trim_le _) (Nat.le_trans (length_withoutParentheses_le _) ?_)
  refine Nat.le_trans (length_trim_le _) (Nat.le_trans (length_dropEndWhile_le _ _) ?_)
  exact Nat.le_trans (length_withoutVariance_le _) (length_trim_le _)

/-- The element of an array is shorter than the text of the array. -/
theorem length_element?_lt {s inner : List Char} (h : element? s = some inner) :
    inner.length < s.length := by
  have key (mark : List Char) (hm : 0 < mark.length)
      (h : mark.isSuffixOf? s = some inner) : inner.length < s.length := by
    have := congrArg List.length (append_of_isSuffixOf? h)
    simp only [List.length_append] at this
    omega
  rcases Option.or_eq_some_iff.1 h with h | ⟨-, h⟩
  · exact key "[]".toList (by decide) h
  · exact key "...".toList (by decide) h

/-- Whether a text refers to nothing: blank, a wildcard or a function type. -/
def refersToNothing (s : List Char) : Bool :=
  s.isEmpty || s == ['?'] || s == ['*'] || isFunctionType s

/-- The simple name of a type, without its arguments and the package in front. -/
def nameOf (s : List Char) : String := String.ofList (simpleName (genericBase s))

/-- The declared type that a name refers to. -/
def declaredType (scope : TypeScope) (name : String) : Option String :=
  if isPrimitive scope.language scope.settings name || scope.parameters.contains name ||
      !(name.toList.head?.any fun c => isLetter c || c == '_') then none
  else some name

/-- What a type text says by itself. -/
inductive Shape where
  /-- It refers to nothing. -/
  | nothing
  /-- It is the name of a type. -/
  | named (name : String)
  /-- It is a container or an array, of something where that is said. -/
  | container (held : Option (List Char))

/-- What a type text says by itself, under the settings of a scope. -/
def shapeOf (settings : Extraction) (s : List Char) : Shape :=
  if refersToNothing (core s) then .nothing
  else
    match element? (core s) with
    | some inner => .container (some inner)
    | none =>
      if ClassGraph.isCollection settings (nameOf (core s)) then
        .container (genericArguments (core s)).head?
      else .named (nameOf (core s))

/-- What a container holds is shorter than the container. -/
theorem length_held_lt {settings : Extraction} {s inner : List Char}
    (h : shapeOf settings s = .container (some inner)) : inner.length < s.length := by
  refine Nat.lt_of_lt_of_le ?_ (length_core_le s)
  unfold shapeOf at h
  split at h
  · cases h
  · split at h
    · next held hheld =>
      cases h
      exact length_element?_lt hheld
    · split at h
      · have h : (genericArguments (core s)).head? = some inner := by simpa using h
        exact length_lt_of_mem_genericArguments (List.mem_of_head? h)
      · cases h

/-- What a text refers to, and whether as what a container holds, when `shape` tells what each text
says by itself and no container holds a longer text. -/
def follow (scope : TypeScope) (shape : List Char → Shape)
    (shorter : ∀ {s inner}, shape s = .container (some inner) → inner.length < s.length)
    (s : List Char) : Option String × Bool :=
  match _h : shape s with
  | .nothing => (none, false)
  | .named name => (declaredType scope name, false)
  | .container none => (none, true)
  | .container (some inner) => ((follow scope shape shorter inner).1, true)
termination_by s.length
decreasing_by exact shorter _h

/-- What a type text refers to, and whether as what a container holds. -/
def targetOf (scope : TypeScope) (s : List Char) : Option String × Bool :=
  follow scope (shapeOf scope.settings) length_held_lt s

/-- The reading of a type text. -/
def resolve (scope : TypeScope) (raw : List Char) : TypeRef :=
  let display := normalized (withoutAnnotations raw)
  let (target, isCollection) := targetOf scope display
  { display := String.ofList display, target, isCollection }

/-- A text without every leading `first`. -/
def dropLeading (first : Char) (s : List Char) : List Char := s.dropWhile (· == first)

/-- The name that a type parameter declares: its first word that is no modifier. -/
def parameterName? (s : List Char) : Option (List Char) :=
  let modifiers := ["in", "out", "reified"].map String.toList
  ((words (withoutAnnotations s)).find? fun word => !modifiers.contains word).map
    (dropEndWhile (· == ':'))

/-- The names that a type parameter list declares. -/
def parameterNames (s : List Char) : List String :=
  let inner := dropEndWhile (· == '>') (dropLeading '<' (trim s))
  ((splitTopLevel ',' inner).filterMap parameterName?).map String.ofList

end TypeRef

end ClassGraph
