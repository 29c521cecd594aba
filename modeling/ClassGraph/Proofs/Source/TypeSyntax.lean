import ClassGraph.Proofs.Source.Normalized

/-!
# The syntax of types

A type is a dotted name with or without type arguments, an array, a variadic type or a nullable
type (`TypeExpr`). `Spells` relates a type to the texts that it is written by, with blanks in all
the places where the language lets them stand. The normal form of such a text is a text of the same
type, in which exactly one blank stands behind each word of a mark of variance
(`Spells.normalized`). What stands in front of type arguments is left open by the relation
(`Spacing`), so that it serves for texts with annotations as well.

`TypeExpr.reference` says what a type refers to, by recursion on the type.
-/

namespace ClassGraph.TypeSyntax

open Text TypeRef

/-! ## Types -/

/-- A simple name. The marks of variance `in` and `out` are none. -/
structure Identifier where
  /-- The characters of the name. -/
  text : List Char
  /-- A name begins with a letter or an underscore. -/
  first : ∃ c ∈ text.head?, isLetter c = true ∨ c = '_'
  /-- Letters, numbers and underscores follow. -/
  rest : text.tail.all isNameChar = true
  /-- The name is no mark of variance. -/
  unmarked : text ∉ ["in".toList, "out".toList]

/-- A name of a type with the packages or types in front of it. -/
structure TypeName where
  /-- The names in front, outermost first. -/
  qualifiers : List Identifier
  /-- The last name. -/
  simple : Identifier

/-- The side on which a wildcard is bounded. -/
inductive Bound where
  /-- The wildcard stands for subtypes. -/
  | upper
  /-- The wildcard stands for supertypes. -/
  | lower

/-- The direction in which a type argument may vary. -/
inductive Projection where
  /-- Values of the argument only come out. -/
  | output
  /-- Values of the argument only go in. -/
  | input

/-- The word of a bound. -/
def Bound.word : Bound → List Char
  | .upper => "extends".toList
  | .lower => "super".toList

/-- The word of a projection. -/
def Projection.word : Projection → List Char
  | .output => "out".toList
  | .input => "in".toList

mutual

/-- A type. -/
inductive TypeExpr where
  /-- A name alone. -/
  | name (name : TypeName)
  /-- A name with type arguments. -/
  | generic (name : TypeName) (first : TypeArgument) (more : List TypeArgument)
  /-- An array of a type. -/
  | array (element : TypeExpr)
  /-- Any number of values of a type. -/
  | variadic (element : TypeExpr)
  /-- A value of a type or nothing. -/
  | nullable (inner : TypeExpr)

/-- A type argument. -/
inductive TypeArgument where
  /-- A type. -/
  | type (type : TypeExpr)
  /-- A wildcard without a bound. -/
  | any
  /-- A projection of everything. -/
  | star
  /-- A wildcard with a bound. -/
  | wildcard (bound : Bound) (type : TypeExpr)
  /-- A type that may vary. -/
  | projected (projection : Projection) (type : TypeExpr)

end

/-- Whether a type is written with a question mark at its end. -/
def TypeExpr.isNullable : TypeExpr → Bool
  | .nullable _ => true
  | _ => false

/-! ## What types refer to -/

/-- The last part of a name, by which the type is known. -/
def TypeName.last (n : TypeName) : String := String.ofList n.simple.text

/-- What a name refers to when its first type argument refers to `held`: a container to what it
holds, values and type parameters to nothing, every other name to its declaration. -/
def TypeName.reference (scope : TypeScope) (held : Option String) (n : TypeName) :
    Option String × Bool :=
  if isCollection scope.settings n.last then (held, true)
  else if isPrimitive scope.language scope.settings n.last ∨ n.last ∈ scope.parameters then
    (none, false)
  else (some n.last, false)

mutual

/-- The declared type that a type refers to, and whether as what a container or array holds. -/
def TypeExpr.reference (scope : TypeScope) : TypeExpr → Option String × Bool
  | .name n => n.reference scope none
  | .generic n first _ => n.reference scope (first.target scope)
  | .array e => ((e.reference scope).1, true)
  | .variadic e => ((e.reference scope).1, true)
  | .nullable e => e.reference scope

/-- The declared type that a type argument refers to; a wildcard without a bound refers to none. -/
def TypeArgument.target (scope : TypeScope) : TypeArgument → Option String
  | .type e => (e.reference scope).1
  | .any => none
  | .star => none
  | .wildcard _ e => (e.reference scope).1
  | .projected _ e => (e.reference scope).1

end

/-! ## Texts of types -/

/-- What may stand between the tokens of a type beside the blanks around them. -/
structure Spacing where
  /-- What may stand between the words of a mark of variance, and behind the mark. -/
  separates : List Char → Prop
  /-- What may stand in front of the first type argument of a name. -/
  opens : TypeName → List Char → Prop
  /-- What may stand in front of a further type argument. -/
  precedes : List Char → Prop

/-- At least one blank stands behind each word of a mark, and nothing in front of arguments. -/
def Spacing.plain : Spacing where
  separates w := w ≠ [] ∧ Blank w
  opens _ f := f = []
  precedes f := f = []

/-- The texts of a dotted name, with blanks around its names and dots. -/
inductive Dotted : List Identifier → Identifier → List Char → Prop
  | simple (i : Identifier) {w w' : List Char} (hw : Blank w) (hw' : Blank w') :
    Dotted [] i (w ++ i.text ++ w')
  | qualified (q : Identifier) {qs : List Identifier} {i : Identifier} {w w' s : List Char}
    (hw : Blank w) (hw' : Blank w') (hs : Dotted qs i s) :
    Dotted (q :: qs) i (w ++ q.text ++ w' ++ '.' :: s)

/-- A part of a type that has a text. -/
inductive Part where
  /-- A type. -/
  | type (type : TypeExpr)
  /-- A type argument. -/
  | argument (argument : TypeArgument)
  /-- Type arguments with commas between them. -/
  | arguments (arguments : List TypeArgument)

/-- The texts of a part of a type. -/
inductive Spells (S : Spacing) : Part → List Char → Prop
  | name {n : TypeName} {s : List Char} (hs : Dotted n.qualifiers n.simple s) :
    Spells S (.type (.name n)) s
  | generic {n : TypeName} {a : TypeArgument} {as : List TypeArgument} {s f t : List Char}
    (hs : Dotted n.qualifiers n.simple s) (hf : S.opens n f)
    (ht : Spells S (.arguments (a :: as)) t) :
    Spells S (.type (.generic n a as)) (s ++ '<' :: (f ++ t) ++ ['>'])
  | array {e : TypeExpr} {s : List Char} (hs : Spells S (.type e) s) :
    Spells S (.type (.array e)) (s ++ ['[', ']'])
  | variadic {e : TypeExpr} {s : List Char} (hs : Spells S (.type e) s) :
    Spells S (.type (.variadic e)) (s ++ ['.', '.', '.'])
  | nullable {e : TypeExpr} {s : List Char} (he : e.isNullable = false)
    (hs : Spells S (.type e) s) :
    Spells S (.type (.nullable e)) (s ++ ['?'])
  | padType {e : TypeExpr} {w s w' : List Char} (hw : Blank w) (hs : Spells S (.type e) s)
    (hw' : Blank w') :
    Spells S (.type e) (w ++ s ++ w')
  | type {e : TypeExpr} {s : List Char} (hs : Spells S (.type e) s) :
    Spells S (.argument (.type e)) s
  | any : Spells S (.argument .any) ['?']
  | star : Spells S (.argument .star) ['*']
  | wildcard (bound : Bound) {e : TypeExpr} {w w' s : List Char} (hw : S.separates w)
    (hw' : S.separates w') (hs : Spells S (.type e) s) :
    Spells S (.argument (.wildcard bound e)) ('?' :: w ++ bound.word ++ w' ++ s)
  | projected (projection : Projection) {e : TypeExpr} {w s : List Char} (hw : S.separates w)
    (hs : Spells S (.type e) s) :
    Spells S (.argument (.projected projection e)) (projection.word ++ w ++ s)
  | padArgument {a : TypeArgument} {w s w' : List Char} (hw : Blank w)
    (hs : Spells S (.argument a) s) (hw' : Blank w') :
    Spells S (.argument a) (w ++ s ++ w')
  | single {a : TypeArgument} {s : List Char} (hs : Spells S (.argument a) s) :
    Spells S (.arguments [a]) s
  | cons {a b : TypeArgument} {as : List TypeArgument} {s f t : List Char}
    (hs : Spells S (.argument a) s) (hf : S.precedes f)
    (ht : Spells S (.arguments (b :: as)) t) :
    Spells S (.arguments (a :: b :: as)) (s ++ ',' :: (f ++ t))

/-- The text is one of the type. -/
def TypeExpr.Written (e : TypeExpr) (s : List Char) : Prop := Spells .plain (.type e) s

variable {S : Spacing} {e : TypeExpr} {a : TypeArgument} {as : List TypeArgument}
  {qs : List Identifier} {i : Identifier} {w w' s t : List Char} {c : Char}

/-! ## Names -/

/-- A character that begins a name may stand in names. -/
theorem isNameChar_of_isLetter (hc : isLetter c = true ∨ c = '_') : isNameChar c = true := by
  rcases hc with hc | rfl
  · simp [isNameChar, isLetterOrNumber, hc]
  · rfl

/-- No character of names is a blank. -/
theorem not_isSpace_of_isNameChar (hc : isNameChar c = true) : isSpace c = false := by
  by_contra hspace
  rw [not_isNameChar_of_isSpace (by simpa using hspace)] at hc
  cases hc

/-- The text of a name has a first character, which is one that begins names. -/
theorem Identifier.exists_text_eq_cons (i : Identifier) :
    ∃ c cs, i.text = c :: cs ∧ (isLetter c = true ∨ c = '_') := by
  obtain ⟨c, hc, hletter⟩ := i.first
  obtain ⟨cs, hcs⟩ := List.head?_eq_some_iff.mp hc
  exact ⟨c, cs, hcs, hletter⟩

/-- The text of a name consists of characters of names. -/
theorem Identifier.isNameChar_of_mem (i : Identifier) : ∀ c ∈ i.text, isNameChar c = true := by
  obtain ⟨c, cs, htext, hletter⟩ := i.exists_text_eq_cons
  rw [htext, List.forall_mem_cons]
  refine ⟨isNameChar_of_isLetter hletter, fun d hd => List.all_eq_true.mp i.rest d ?_⟩
  rwa [htext, List.tail_cons]

/-- The text of a name is not empty. -/
theorem Identifier.text_ne_nil (i : Identifier) : i.text ≠ [] := by
  obtain ⟨c, cs, htext, -⟩ := i.exists_text_eq_cons
  simp [htext]

/-- No blank stands in the text of a name. -/
theorem Identifier.not_isSpace_of_mem (i : Identifier) : ∀ c ∈ i.text, isSpace c = false :=
  fun c hc => not_isSpace_of_isNameChar (i.isNameChar_of_mem c hc)

/-- Blanks behind a dotted name belong to its text. -/
theorem Dotted.append_right (hs : Dotted qs i s) (hw : Blank w) : Dotted qs i (s ++ w) := by
  induction hs with
  | simple i hw₁ hw₂ =>
    rw [List.append_assoc]
    exact .simple i hw₁ (hw₂.append hw)
  | qualified q hw₁ hw₂ _ ih =>
    rw [List.append_assoc, List.cons_append]
    exact .qualified q hw₁ hw₂ ih

/-- Blanks in front of a dotted name make it no other name. -/
theorem Dotted.append_left (hs : Dotted qs i s) (hw : Blank w) : Dotted qs i (w ++ s) := by
  cases hs with
  | simple i hw₁ hw₂ =>
    rw [← List.append_assoc, ← List.append_assoc]
    exact .simple i (hw.append hw₁) hw₂
  | qualified q hw₁ hw₂ hs =>
    rw [← List.append_assoc, ← List.append_assoc, ← List.append_assoc]
    exact .qualified q (hw.append hw₁) hw₂ hs

/-- The characters of a dotted name. -/
theorem Dotted.forall_mem (hs : Dotted qs i s) :
    ∀ c ∈ s, isNameChar c = true ∨ isSpace c = true ∨ c = '.' := by
  induction hs with
  | simple i hw hw' =>
    intro c hc
    rw [List.mem_append, List.mem_append] at hc
    rcases hc with (hc | hc) | hc
    · exact .inr (.inl (hw c hc))
    · exact .inl (i.isNameChar_of_mem c hc)
    · exact .inr (.inl (hw' c hc))
  | qualified q hw hw' _ ih =>
    intro c hc
    rw [List.mem_append, List.mem_append, List.mem_append, List.mem_cons] at hc
    rcases hc with ((hc | hc) | hc) | rfl | hc
    · exact .inr (.inl (hw c hc))
    · exact .inl (q.isNameChar_of_mem c hc)
    · exact .inr (.inl (hw' c hc))
    · exact .inr (.inr rfl)
    · exact ih c hc

/-- Punctuation does not occur in dotted names. -/
theorem Dotted.notMem (hs : Dotted qs i s)
    (hc : c ∈ ['<', '>', ',', '-', '(', ')', '[', ']', '@']) : c ∉ s := by
  intro hmem
  have hother : ∀ d ∈ ['<', '>', ',', '-', '(', ')', '[', ']', '@'],
      ¬ (isNameChar d = true ∨ isSpace d = true ∨ d = '.') := forall_mem_of_all (by decide)
  exact hother c hc (hs.forall_mem c hmem)

/-- A dotted name has no brackets or commas. -/
theorem Dotted.nested (hs : Dotted qs i s) : Nested s := by
  refine nested_of_forall fun c hc hbracket => hs.notMem ?_ hc
  revert hbracket
  simp only [List.mem_cons, List.not_mem_nil, or_false]
  tauto

/-- A dotted name ends with a character of names. -/
theorem Dotted.exists_ends (hs : Dotted qs i s) : ∃ c, isNameChar c = true ∧ Ends s c := by
  induction hs with
  | @simple i w w' hw hw' =>
    have hmem := List.getLast_mem i.text_ne_nil
    have hends := ends_concat i.text.dropLast (i.not_isSpace_of_mem _ hmem)
    rw [List.dropLast_append_getLast i.text_ne_nil] at hends
    exact ⟨_, i.isNameChar_of_mem _ hmem, (hends.append_left w).append_right hw'⟩
  | qualified q hw hw' _ ih =>
    obtain ⟨c, hc, hends⟩ := ih
    exact ⟨c, hc, (hends.append_left ['.']).append_left _⟩

/-- The last name is what stands behind the last dot. -/
theorem Dotted.simpleName (hs : Dotted qs i s) : simpleName s = i.text := by
  induction hs with
  | @simple i w w' hw hw' =>
    have hdot : '.' ∉ i.text := fun hmem => absurd (i.isNameChar_of_mem _ hmem) (by decide)
    have hnone : '.' ∉ w ++ i.text ++ w' := by
      simp only [List.mem_append, not_or]
      exact ⟨⟨hw.notMem rfl, hdot⟩, hw'.notMem rfl⟩
    rw [TypeRef.simpleName, afterLast_eq_self hnone, trim_append_right _ hw',
      trim_append_left hw, trim_of_forall i.not_isSpace_of_mem]
  | qualified q hw hw' _ ih =>
    rw [TypeRef.simpleName, afterLast_append]
    exact ih

/-! ## The beginning and the end of types -/

/-- No name goes on with the text. -/
def Stops (t : List Char) : Prop := ∀ c ∈ t.head?, isNameChar c = false

/-- No name goes on with two texts when it goes on with neither. -/
theorem Stops.append (hs : Stops s) (ht : Stops t) : Stops (s ++ t) := by
  cases s with
  | nil => exact ht
  | cons c s => exact hs

/-- No name goes on with a text that begins with another character. -/
theorem stops_cons (hc : isNameChar c = false) (t : List Char) : Stops (c :: t) := by
  intro d hd
  obtain rfl := Option.some.inj hd
  exact hc

/-- No name goes on with blanks. -/
theorem stops_of_blank (hw : Blank w) : Stops w :=
  fun c hc => not_isNameChar_of_isSpace (hw c (List.mem_of_mem_head? hc))

/-- The characters of names in front of a text with which no name goes on are all of a name. -/
theorem takeWhile_of_stops (hs : ∀ c ∈ s, isNameChar c = true) (ht : Stops t) :
    (s ++ t).takeWhile isNameChar = s := by
  rw [List.takeWhile_append_of_pos hs]
  cases t with
  | nil => simp
  | cons c t => rw [List.takeWhile_cons_of_neg (by simp [ht c rfl]), List.append_nil]

/-- Behind the characters of names stands the text with which no name goes on. -/
theorem dropWhile_of_stops (hs : ∀ c ∈ s, isNameChar c = true) (ht : Stops t) :
    (s ++ t).dropWhile isNameChar = t := by
  rw [List.dropWhile_append_of_pos hs]
  cases t with
  | nil => rfl
  | cons c t => exact List.dropWhile_cons_of_neg (by simp [ht c rfl])

/-- The first word of a text is a simple name. -/
def Opens (s : List Char) : Prop :=
  ∃ (i : Identifier) (rest : List Char), trimStart s = i.text ++ rest ∧ Stops rest

/-- The text begins with a letter. -/
theorem Opens.exists_trimStart (h : Opens s) :
    ∃ c rest, trimStart s = c :: rest ∧ (isLetter c = true ∨ c = '_') := by
  obtain ⟨i, rest, hstart, -⟩ := h
  obtain ⟨c, cs, htext, hc⟩ := i.exists_text_eq_cons
  exact ⟨c, cs ++ rest, by rw [hstart, htext, List.cons_append], hc⟩

/-- A text that begins with a name is not blank. -/
theorem Opens.not_blank (h : Opens s) : ¬ Blank s := by
  obtain ⟨c, rest, hstart, -⟩ := h.exists_trimStart
  intro hs
  rw [trimStart_eq_nil_iff.mpr hs] at hstart
  cases hstart

/-- Trimming does not change it. -/
theorem Opens.exists_trim (h : Opens s) :
    ∃ c rest, trim s = c :: rest ∧ (isLetter c = true ∨ c = '_') := by
  obtain ⟨c, rest, hfirst, hletter⟩ := h.exists_trimStart
  obtain ⟨w, -, hstart⟩ := Text.exists_trimStart s
  obtain ⟨d, rest', htrim⟩ := List.exists_cons_of_ne_nil (mt trim_eq_nil_iff.mp h.not_blank)
  rw [hfirst, htrim] at hstart
  obtain rfl := (List.cons.inj hstart).1
  exact ⟨c, rest', htrim, hletter⟩

/-- A text still begins with a name when something follows it with which no name goes on. -/
theorem Opens.append_right (h : Opens s) (ht : Stops t) : Opens (s ++ t) := by
  have hne := h.not_blank
  obtain ⟨i, rest, hstart, hrest⟩ := h
  exact ⟨i, rest ++ t, by rw [trimStart_append_right hne, hstart, List.append_assoc],
    hrest.append ht⟩

/-- A text still begins with a name when blanks precede it. -/
theorem Opens.append_left (h : Opens s) (hw : Blank w) : Opens (w ++ s) := by
  obtain ⟨i, rest, hstart, hrest⟩ := h
  exact ⟨i, rest, by rw [trimStart_append_left hw, hstart], hrest⟩

/-- A name begins with a name. -/
theorem Identifier.opens (i : Identifier) : Opens i.text := by
  obtain ⟨c, cs, htext, hc⟩ := i.exists_text_eq_cons
  refine ⟨i, [], ?_, by simp [Stops]⟩
  rw [htext, List.append_nil]
  exact trimStart_cons (not_isSpace_of_isNameChar (isNameChar_of_isLetter hc)) cs

/-- A dotted name begins with a name. -/
theorem Dotted.opens (hs : Dotted qs i s) : Opens s := by
  cases hs with
  | simple i hw hw' => exact (i.opens.append_left hw).append_right (stops_of_blank hw')
  | qualified q hw hw' _ =>
    rw [List.append_assoc]
    exact (q.opens.append_left hw).append_right
      ((stops_of_blank hw').append (stops_cons (by decide) _))

/-- A type begins with a name. -/
theorem Spells.opens (h : Spells S (.type e) s) : Opens s := by
  generalize hp : Part.type e = p at h
  induction h generalizing e with
  | name hs => exact hs.opens
  | generic hs _ _ _ =>
    rw [List.append_assoc]
    exact hs.opens.append_right (stops_cons (by decide) _)
  | array _ ih | variadic _ ih =>
    cases hp
    exact (ih rfl).append_right (stops_cons (by decide) _)
  | nullable _ _ ih =>
    cases hp
    exact (ih rfl).append_right (stops_cons (by decide) _)
  | padType hw _ hw' ih => exact ((ih hp).append_left hw).append_right (stops_of_blank hw')
  | _ => cases hp

/-- Only a nullable type ends in a question mark. -/
theorem Spells.exists_ends (h : Spells S (.type e) s) :
    ∃ c, Ends s c ∧ (c = '?' → e.isNullable = true) := by
  generalize hp : Part.type e = p at h
  induction h generalizing e with
  | name hs =>
    obtain ⟨c, hc, hends⟩ := hs.exists_ends
    refine ⟨c, hends, ?_⟩
    rintro rfl
    cases hc
  | generic _ _ _ _ => exact ⟨'>', ends_concat _ rfl, by simp⟩
  | @array _ s _ _ => exact ⟨']', (ends_concat ['['] rfl).append_left s, by simp⟩
  | @variadic _ s _ _ => exact ⟨'.', (ends_concat ['.', '.'] rfl).append_left s, by simp⟩
  | nullable _ _ _ =>
    cases hp
    exact ⟨'?', ends_concat _ rfl, fun _ => rfl⟩
  | padType _ _ hw' ih =>
    obtain ⟨c, hends, hc⟩ := ih hp
    exact ⟨c, (hends.append_left _).append_right hw', hc⟩
  | _ => cases hp

/-! ## Normal forms of types -/

/-- A nested text without dashes, in which no arrow comes about however it is continued. -/
def Inert (least : Int) (s : List Char) : Prop := KeepsDepth least s ∧ '-' ∉ s

/-- Two inert texts one behind the other are inert. -/
theorem Inert.append {least : Int} (hs : Inert least s) (ht : Inert least t) :
    Inert least (s ++ t) := by
  refine ⟨hs.1.append ht.1 fun hdash => absurd (List.mem_of_getLast? hdash) hs.2, ?_⟩
  rw [List.mem_append, not_or]
  exact ⟨hs.2, ht.2⟩

/-- An inert text is inert as a list. -/
theorem Inert.toList (hs : Inert 0 s) : Inert 1 s := ⟨Nested.toList hs.1, hs.2⟩

/-- Blanks are inert. -/
theorem inert_of_blank (hw : Blank w) : Inert 0 w := by
  refine ⟨nested_of_forall fun c hc hbracket => ?_, hw.notMem rfl⟩
  have hnone : ∀ c ∈ ['<', '(', '[', '>', ')', ']', ','], isSpace c = false :=
    forall_mem_of_all (by decide)
  exact hw.notMem (hnone c hbracket) hc

/-- The texts with normalized blanks. What stands in front of type arguments makes no difference to
their places, and is blank where the argument says what a container holds. -/
def Spacing.normal (settings : Extraction) : Spacing where
  separates w := w = [' ']
  opens n f := Inert 1 f ∧ (isCollection settings n.last = true → Blank f)
  precedes f := Inert 1 f

/-- An inert list between blanks is inert. -/
theorem Inert.pad (hs : Inert 1 s) (hw : Blank w) (hw' : Blank t) : Inert 1 (w ++ s ++ t) :=
  ((inert_of_blank hw).toList.append hs).append (inert_of_blank hw').toList

/-- What may stand in front of type arguments may do so when its blanks are normalized, too. -/
structure Spacing.Normalizes (S : Spacing) (settings : Extraction) : Prop where
  /-- Blanks stand behind the words of a mark. -/
  separates : ∀ {w}, S.separates w → w ≠ [] ∧ Blank w
  /-- The normal form of what stands in front of a first argument. -/
  opens : ∀ {n f}, S.opens n f → (Spacing.normal settings).opens n (normalized f)
  /-- The normal form of what stands in front of a further argument. -/
  precedes : ∀ {f}, S.precedes f → (Spacing.normal settings).precedes (normalized f)

/-- Types with plain spacing have the normal forms of their parts. -/
theorem Spacing.normalizes_plain (settings : Extraction) : Spacing.plain.Normalizes settings where
  separates h := h
  opens := by
    rintro n f rfl
    exact ⟨⟨keepsDepth_nil, List.not_mem_nil⟩, fun _ => blank_nil⟩
  precedes := by
    rintro f rfl
    exact ⟨keepsDepth_nil, List.not_mem_nil⟩

/-- One blank is left between a word and the type behind it. -/
theorem normalized_word_opens (hword : ∀ d ∈ t, isSpace d = false) (hlast : t.getLast? = some c)
    (hc : c ∉ ['<', '(']) (hw : w ≠ [] ∧ Blank w) (hs : Opens s) :
    normalized (t ++ w ++ s) = t ++ ' ' :: normalized s := by
  obtain ⟨d, rest, hstart, hd⟩ := hs.exists_trimStart
  refine normalized_word_append hword hlast hc hw.2 hw.1 hstart fun hmem => ?_
  have hplain : ∀ d ∈ ['>', ',', ')'], isNameChar d = false := forall_mem_of_all (by decide)
  have hname := isNameChar_of_isLetter hd
  rw [hplain d hmem] at hname
  cases hname

/-- The normal form of a bounded type has one blank behind the word of its bound. -/
theorem Bound.normalized_append (bound : Bound) (hw : w ≠ [] ∧ Blank w) (hs : Opens s) :
    normalized (bound.word ++ w ++ s) = bound.word ++ ' ' :: normalized s := by
  cases bound <;>
    exact normalized_word_opens (forall_mem_of_all (by decide)) rfl (by decide) hw hs

/-- The normal form of a projected type has one blank behind the word of its projection. -/
theorem Projection.normalized_append (projection : Projection) (hw : w ≠ [] ∧ Blank w)
    (hs : Opens s) :
    normalized (projection.word ++ w ++ s) = projection.word ++ ' ' :: normalized s := by
  cases projection <;>
    exact normalized_word_opens (forall_mem_of_all (by decide)) rfl (by decide) hw hs

/-- The word of a bound could be a name. -/
theorem Bound.opens (bound : Bound) : Opens bound.word := by
  cases bound <;> exact Identifier.opens ⟨_, ⟨_, rfl, .inl rfl⟩, by decide, by decide⟩

/-- The normal form of a dotted name is the same name. -/
theorem Dotted.normalized (hs : Dotted qs i s) : Dotted qs i (normalized s) := by
  induction hs with
  | @simple i w w' hw hw' =>
    obtain ⟨g, hg, happend⟩ := exists_normalized_append (w ++ i.text) w'
    rw [happend, normalized_of_blank hw', List.append_nil, normalized_append_left hw,
      normalized_word i.not_isSpace_of_mem]
    exact .simple i blank_nil hg
  | @qualified q qs i w w' s hw hw' _ ih =>
    obtain ⟨g, hg, hname⟩ := exists_normalized_append (w ++ q.text) (w' ++ '.' :: s)
    obtain ⟨g', hg', hdot⟩ := exists_normalized_append ['.'] s
    rw [List.singleton_append] at hdot
    rw [List.append_assoc (w ++ q.text), hname, normalized_append_left hw,
      normalized_word q.not_isSpace_of_mem, normalized_append_left hw', hdot,
      normalized_word (s := ['.']) (forall_mem_of_all (by decide))]
    rw [List.singleton_append, List.cons_append]
    exact .qualified q blank_nil hg (ih.append_left hg')

/-- Blanks behind type arguments make them no other arguments. -/
theorem Spells.append_right (h : Spells S (.arguments as) s) (hw : Blank w) :
    Spells S (.arguments as) (s ++ w) := by
  generalize hp : Part.arguments as = p at h
  induction h generalizing as with
  | single hs _ =>
    cases hp
    exact .single (.padArgument blank_nil hs hw)
  | cons hs hf _ _ ih =>
    cases hp
    rw [List.append_assoc, List.cons_append, List.append_assoc]
    exact .cons hs hf (ih rfl)
  | _ => cases hp

/-- What stands behind a character that is no blank. -/
theorem exists_normalized_behind (hc : isSpace c = false) (f t : List Char) :
    ∃ w w', Blank w ∧ Blank w' ∧ normalized (c :: (f ++ t)) =
      c :: (w ++ normalized f ++ w' ++ normalized t) := by
  obtain ⟨w, hw, hbehind⟩ := exists_normalized_append [c] (f ++ t)
  obtain ⟨w', hw', happend⟩ := exists_normalized_append f t
  rw [normalized_word (s := [c]) (by simpa using hc), happend] at hbehind
  exact ⟨w, w', hw, hw', by simpa using hbehind⟩

/-- A word at the end of a text stays there. -/
theorem exists_normalized_concat (s : List Char) (hword : ∀ c ∈ t, isSpace c = false) :
    ∃ w, Blank w ∧ normalized (s ++ t) = normalized s ++ w ++ t := by
  obtain ⟨w, hw, happend⟩ := exists_normalized_append s t
  exact ⟨w, hw, by rw [happend, normalized_word hword]⟩

/-- The normal form of a text of a part of a type is one of its texts. -/
theorem Spells.normalized {p : Part} {settings : Extraction} (hS : S.Normalizes settings)
    (h : Spells S p s) : Spells (.normal settings) p (normalized s) := by
  have hone : (Spacing.normal settings).separates [' '] := rfl
  induction h with
  | name hs => exact .name hs.normalized
  | @generic n a as s f t hs hf _ ih =>
    obtain ⟨w₁, hw₁, hclosing⟩ :=
      exists_normalized_concat (s ++ '<' :: (f ++ t)) (t := ['>']) (forall_mem_of_all (by decide))
    obtain ⟨w₂, hw₂, hopening⟩ := exists_normalized_append s ('<' :: (f ++ t))
    obtain ⟨w, w', hw, hw', hbehind⟩ := exists_normalized_behind (c := '<') rfl f t
    obtain ⟨hinert, hblank⟩ := hS.opens hf
    -- Gaps around what stands in front of the arguments go with it.
    have hopens : (Spacing.normal settings).opens n (w ++ TypeRef.normalized f ++ w') :=
      ⟨hinert.pad hw hw', fun hn => (hw.append (hblank hn)).append hw'⟩
    have hnormal := Spells.generic (hs.normalized.append_right hw₂) hopens (ih.append_right hw₁)
    rw [hclosing, hopening, hbehind]
    simpa [List.append_assoc] using hnormal
  | @array e s _ ih =>
    obtain ⟨w, hw, happend⟩ :=
      exists_normalized_concat s (t := ['[', ']']) (forall_mem_of_all (by decide))
    rw [happend]
    exact .array (.padType blank_nil ih hw)
  | @variadic e s _ ih =>
    obtain ⟨w, hw, happend⟩ :=
      exists_normalized_concat s (t := ['.', '.', '.']) (forall_mem_of_all (by decide))
    rw [happend]
    exact .variadic (.padType blank_nil ih hw)
  | @nullable e s he _ ih =>
    obtain ⟨w, hw, happend⟩ :=
      exists_normalized_concat s (t := ['?']) (forall_mem_of_all (by decide))
    rw [happend]
    exact .nullable he (.padType blank_nil ih hw)
  | @padType e w s w' hw _ hw' ih =>
    obtain ⟨g, hg, happend⟩ := exists_normalized_append (w ++ s) w'
    rw [happend, normalized_append_left hw, normalized_of_blank hw', List.append_nil]
    exact .padType blank_nil ih hg
  | type _ ih => exact .type ih
  | any =>
    rw [normalized_word (forall_mem_of_all (by decide))]
    exact .any
  | star =>
    rw [normalized_word (forall_mem_of_all (by decide))]
    exact .star
  | @wildcard bound e w w' s hw hw' hs ih =>
    have hstops : Stops w' := stops_of_blank (hS.separates hw').2
    -- Behind the question mark the word of the bound is read like a name.
    have hopens : Opens (bound.word ++ w' ++ s) := by
      obtain ⟨hne, -⟩ := hS.separates hw'
      obtain ⟨c, rest, rfl⟩ := List.exists_cons_of_ne_nil hne
      rw [List.append_assoc]
      exact bound.opens.append_right (stops_cons (hstops c rfl) _)
    have hmark : TypeRef.normalized (['?'] ++ w ++ (bound.word ++ w' ++ s)) =
        ['?'] ++ ' ' :: (bound.word ++ ' ' :: TypeRef.normalized s) := by
      rw [normalized_word_opens (forall_mem_of_all (by decide)) rfl (by decide)
        (hS.separates hw) hopens, bound.normalized_append (hS.separates hw') hs.opens]
    have happend : '?' :: w ++ bound.word ++ w' ++ s = ['?'] ++ w ++ (bound.word ++ w' ++ s) := by
      simp
    rw [happend, hmark]
    simpa using Spells.wildcard bound hone hone ih
  | @projected projection e w s hw hs ih =>
    rw [projection.normalized_append (hS.separates hw) hs.opens]
    simpa using Spells.projected projection hone ih
  | @padArgument a w s w' hw _ hw' ih =>
    obtain ⟨g, hg, happend⟩ := exists_normalized_append (w ++ s) w'
    rw [happend, normalized_append_left hw, normalized_of_blank hw', List.append_nil]
    exact .padArgument blank_nil ih hg
  | single _ ih => exact .single ih
  | @cons a b as s f t _ hf _ ihs iht =>
    obtain ⟨w₁, hw₁, hcomma⟩ := exists_normalized_append s (',' :: (f ++ t))
    obtain ⟨w, w', hw, hw', hbehind⟩ := exists_normalized_behind (c := ',') rfl f t
    have hnormal := Spells.cons (.padArgument blank_nil ihs hw₁)
      (Inert.pad (hS.precedes hf) hw hw') iht
    rw [hcomma, hbehind]
    simpa [List.append_assoc] using hnormal

end ClassGraph.TypeSyntax
