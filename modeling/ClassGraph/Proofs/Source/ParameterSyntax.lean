import ClassGraph.Proofs.Source.TypeParameter
import ClassGraph.Source.Kotlin.Member

/-!
# The syntax of value parameters

A value parameter is a name behind modifiers, a type and perhaps a default value, of which nothing
is known (`ValueParameter`). Its name and its type are found in every text that begins with the
parameter up to its default value, whatever is left of that (`parameter?_head`,
`parameter?_default`). Blanks around the type are not part of what is found
(`ParameterText.trimmed`): the reading of types passes over them.
-/

namespace ClassGraph.Source.Kotlin

open Text TypeSyntax

/-- The characters that are no part of the words of a parameter, besides the blanks. -/
def parameterMarks : List Char := ['<', '(', '[', '>', ')', ']', ',', '-', ':', '=']

/-- A modifier or the name of a parameter. -/
structure ParameterWord where
  /-- The characters of the word. -/
  text : List Char
  /-- There is at least one. -/
  nonempty : text ≠ []
  /-- Neither blanks nor marks are among them. -/
  plain : ∀ c ∈ text, isSpace c = false ∧ c ∉ parameterMarks

/-- The modifier of a parameter that stands for any number of values. -/
def varargWord : List Char := "vararg".toList

/-- A value parameter as it is written. -/
structure ValueParameter where
  /-- The blanks in front of it. -/
  front : Blanks
  /-- The modifiers, each with the blanks behind it. -/
  modifiers : List (ParameterWord × Gap)
  /-- The name. -/
  name : ParameterWord
  /-- The name is no annotation. -/
  unmarked : name.text.head? ≠ some '@'
  /-- The name is no modifier either. -/
  notModifier : name.text ≠ varargWord
  /-- The blanks in front of the colon. -/
  before : Blanks
  /-- The type, with the blanks around it. -/
  type : List Char
  /-- The brackets of the type close each other, and its commas stand inside of them. -/
  bracketed : Bracketed false type
  /-- No value begins in the type. -/
  unassigned : '=' ∉ type
  /-- The default value, where there is one. -/
  default : Option (List Char)

/-- Modifiers, each with the blanks behind it. -/
def parameterWords : List (ParameterWord × Gap) → List Char
  | [] => []
  | (word, gap) :: more => word.text ++ (gap.1 ++ parameterWords more)

/-- A parameter without blanks around its type. -/
def ParameterText.trimmed (p : ParameterText) : ParameterText where
  name := p.name
  type := trim p.type

namespace ValueParameter

/-- The text of a parameter up to its colon. -/
def label (p : ValueParameter) : List Char :=
  p.front.1 ++ (parameterWords p.modifiers ++ (p.name.text ++ p.before.1))

/-- The text of a parameter up to its default value. -/
def head (p : ValueParameter) : List Char := p.label ++ ':' :: p.type

/-- The text of a parameter. -/
def text (p : ValueParameter) : List Char := p.head ++ p.default.elim [] ('=' :: ·)

/-- Whether a parameter stands for any number of values. -/
def isVariadic (p : ValueParameter) : Bool := (p.modifiers.map (·.1.text)).contains varargWord

/-- The name and the type that a parameter declares. One of variable arity is an array. -/
def declared (p : ValueParameter) : ParameterText where
  name := String.ofList p.name.text
  type := if p.isVariadic then "Array<".toList ++ trim p.type ++ ['>'] else trim p.type

end ValueParameter

variable {p : ValueParameter} {s w : List Char} {c : Char}

/-! ## Characters -/

/-- Blanks hold no mark of parameters. -/
theorem notMem_parameterMarks_of_blank (hw : Blank w) : ∀ c ∈ w, c ∉ parameterMarks := by
  have hmarks : ∀ c ∈ parameterMarks, isSpace c = false := forall_mem_of_all (by decide)
  exact fun c hc hmem => hw.notMem (hmarks c hmem) hc

namespace ValueParameter

/-- The label of a parameter holds no mark of parameters. -/
theorem notMem_label (p : ValueParameter) : ∀ c ∈ p.label, c ∉ parameterMarks := by
  have hwords (ms : List (ParameterWord × Gap)) : ∀ c ∈ parameterWords ms, c ∉ parameterMarks := by
    induction ms with
    | nil => exact fun c hc => absurd hc List.not_mem_nil
    | cons m ms ih =>
      rw [parameterWords, List.forall_mem_append, List.forall_mem_append]
      exact ⟨fun c hc => (m.1.plain c hc).2, notMem_parameterMarks_of_blank m.2.2.2, ih⟩
  rw [label, List.forall_mem_append, List.forall_mem_append, List.forall_mem_append]
  exact ⟨notMem_parameterMarks_of_blank p.front.2, hwords _, fun c hc => (p.name.plain c hc).2,
    notMem_parameterMarks_of_blank p.before.2⟩

/-- The brackets of a parameter close each other in front of its default value. -/
theorem bracketed_head (p : ValueParameter) : Bracketed false p.head := by
  have hlabel : Bracketed false p.label := bracketed_of_forall fun c hc hmem => by
    refine p.notMem_label c hc ?_
    simp only [parameterMarks, List.mem_cons, List.not_mem_nil, or_false] at hmem ⊢
    tauto
  exact hlabel.append (.plain (by decide) p.bracketed)

/-! ## What is found -/

/-- The words in front of a parameter are words, and come before what follows. -/
theorem words_parameterWords (ms : List (ParameterWord × Gap)) (t : List Char) :
    words (parameterWords ms ++ t) = ms.map (·.1.text) ++ words t := by
  induction ms with
  | nil => rfl
  | cons m ms ih =>
    rw [parameterWords, List.append_assoc, List.append_assoc,
      words_word_gap (fun c hc => (m.1.plain c hc).1) m.1.nonempty m.2.2.2 m.2.2.1, ih,
      List.map_cons, List.cons_append]

/-- The words in front of the colon: the modifiers that are no annotations, and the name. -/
theorem plainWords_label (p : ValueParameter) :
    plainWords p.label =
      ((p.modifiers.map (·.1.text)).filter fun word => word.head? ≠ some '@') ++ [p.name.text] := by
  rw [plainWords, label, words_append_left p.front.2, words_parameterWords,
    words_append_right _ p.before.2,
    words_of_forall (fun c hc => (p.name.plain c hc).1) p.name.nonempty, List.filter_append]
  simp [p.unmarked]

/-- A parameter is variadic when its label says so. -/
theorem contains_vararg (p : ValueParameter) :
    (plainWords p.label).contains varargWord = p.isVariadic := by
  have hword : varargWord.head? ≠ some '@' := by decide
  rw [plainWords_label, isVariadic, Bool.eq_iff_iff]
  simp [p.notModifier.symm, hword]

/-- Trimming the start of a label changes none of its words and adds no mark. -/
theorem trimStart_label (p : ValueParameter) :
    plainWords (trimStart p.label) = plainWords p.label ∧
      ∀ c ∈ trimStart p.label, c ∉ parameterMarks := by
  have hlabel := List.takeWhile_append_dropWhile (p := isSpace) (l := p.label)
  have hblank : Blank (p.label.takeWhile isSpace) := fun c hc => List.mem_takeWhile_imp hc
  refine ⟨?_, fun c hc => p.notMem_label c ((List.dropWhile_sublist _).subset hc)⟩
  conv_rhs => rw [← hlabel]
  rw [plainWords, plainWords, words_append_left hblank, trimStart]

/-- Trimming leaves the colon of a parameter where it is. -/
theorem trim_label_append (p : ValueParameter) (t : List Char) :
    trim (p.label ++ ':' :: t) = trimStart p.label ++ ':' :: trimEnd t := by
  have hname : ¬ Blank p.label := by
    obtain ⟨c, hc⟩ := List.exists_mem_of_ne_nil _ p.name.nonempty
    intro hblank
    have hspace := hblank c (by simp [label, hc])
    rw [(p.name.plain c hc).1] at hspace
    cases hspace
  rw [trim, trimStart_append_right hname, trimEnd, dropEndWhile_append_cons (by decide), trimEnd]

/-- The parameter in a text whose part in front of a value is its label and its type. -/
theorem parameter?_of_before (p : ValueParameter) {written : List Char} (type : List Char)
    (hbefore : beforeChar '=' written = trimStart p.label ++ ':' :: type)
    (htype : trim type = trim p.type) :
    (parameter? written).map ParameterText.trimmed = some p.declared := by
  obtain ⟨hwords, hmarks⟩ := p.trimStart_label
  have hcolon : ':' ∉ trimStart p.label := fun h => hmarks _ h (by decide)
  have hlast : (plainWords p.label).getLastD [] = p.name.text := by
    rw [plainWords_label, List.getLastD_eq_getLast?, List.getLast?_concat, Option.getD_some]
  have harray (s : List Char) :
      trim ("Array<".toList ++ s ++ ['>']) = "Array<".toList ++ s ++ ['>'] := by
    have hcons : "Array<".toList ++ s = 'A' :: ("rray<".toList ++ s) := rfl
    have hblank : ¬ Blank ('A' :: ("rray<".toList ++ s)) := fun h =>
      absurd (h 'A' List.mem_cons_self) (by decide)
    rw [hcons, trim_append hblank List.getLast?_singleton (by decide), trimStart_cons (by decide)]
  have hvararg : (plainWords p.label).contains "vararg".toList = p.isVariadic := p.contains_vararg
  rw [parameter?, hbefore, cutAt?_append hcolon]
  simp only [Option.bind_eq_bind, Option.bind_some, hwords, hlast, hvararg, Option.pure_def,
    Option.map_some, ParameterText.trimmed, declared, Option.some.injEq, ParameterText.mk.injEq,
    true_and]
  cases p.isVariadic with
  | true => rw [if_pos rfl, if_pos rfl, harray, htype]
  | false => rw [if_neg Bool.false_ne_true, if_neg Bool.false_ne_true, htype]

/-- A parameter without a default value is found. -/
theorem parameter?_head (p : ValueParameter) :
    (parameter? (trim p.head)).map ParameterText.trimmed = some p.declared := by
  obtain ⟨w, hw, hend⟩ := exists_dropEndWhile isSpace p.type
  have hassign : '=' ∉ trimStart p.label ++ ':' :: trimEnd p.type := by
    rw [List.mem_append, List.mem_cons, not_or, not_or]
    refine ⟨fun h => p.trimStart_label.2 _ h (by decide), by decide, fun h => p.unassigned ?_⟩
    rw [hend]
    exact List.mem_append_left w h
  refine p.parameter?_of_before (trimEnd p.type) ?_ ?_
  · rw [head, trim_label_append, beforeChar_eq_self hassign]
  · conv_rhs => rw [hend]
    rw [trim_append_right _ hw, trimEnd]

/-- A parameter is found by what is left of its default value, whatever that is. -/
theorem parameter?_default (p : ValueParameter) (value : List Char) :
    (parameter? (trim (p.head ++ '=' :: value))).map ParameterText.trimmed = some p.declared := by
  have hassign : '=' ∉ trimStart p.label ++ ':' :: p.type := by
    rw [List.mem_append, List.mem_cons, not_or, not_or]
    exact ⟨fun h => p.trimStart_label.2 _ h (by decide), by decide, p.unassigned⟩
  refine p.parameter?_of_before p.type ?_ rfl
  rw [head, List.append_assoc, List.cons_append, trim_label_append, trimEnd,
    dropEndWhile_append_cons (by decide), ← List.cons_append, ← List.append_assoc,
    beforeChar_append hassign]

end ValueParameter

end ClassGraph.Source.Kotlin
