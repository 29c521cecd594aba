import ClassGraph.Proofs.Source.Call
import ClassGraph.Proofs.Source.FunctionType
import ClassGraph.Proofs.Source.PropertySyntax

/-!
# Inferred types of properties

The type of a property without one is inferred from its initial value: a new object has the type
whose constructor is called. Only the name of the constructor is taken, without its type arguments.
For most names the arguments say nothing, so that the property is read as if its type were
declared. A container is read by its first argument, though, which is missing in the inferred type,
so that nothing is aggregated (`addProperty_container`). `addProperty_inferred` compares the two
ways to write a property in all cases.
-/

namespace ClassGraph.Source.Kotlin

open Text TypeSyntax

/-- The text of type arguments, which may be missing. -/
def argumentsText : List (List Char) → List Char
  | [] => []
  | first :: more => '<' :: join [','] (first :: more) ++ ['>']

/-- A type with a constructor. -/
structure ConstructedType where
  /-- The name, which is that of the constructor. -/
  name : List Char
  /-- The texts of the type arguments. -/
  arguments : List (List Char)
  /-- The name begins with a capital. -/
  capitalized : Capitalized name
  /-- The brackets in the arguments close each other, and no argument is missing. -/
  bracketed : ∀ a ∈ arguments, Bracketed false a ∧ ¬ Blank a
  /-- The arguments stand on one line, and curly brackets do not occur in types. -/
  plain : ∀ a ∈ arguments, ∀ c ∈ a, c ∉ ['{', '}', '\n']
  /-- No word names another object. -/
  unheld : "by".toList ∉ words (name ++ argumentsText arguments)

/-- The text of a type with a constructor. -/
def ConstructedType.text (T : ConstructedType) : List Char := T.name ++ argumentsText T.arguments

/-- A property whose initial value is a new object, in its layout. -/
structure InitializedProperty where
  /-- The property up to its name. -/
  front : PropertyFront
  /-- The type of the object. -/
  type : ConstructedType
  /-- The blanks behind the name of the property. -/
  before : LineBlanks
  /-- The blanks in front of a type that is declared. -/
  after : LineBlanks
  /-- The blanks behind a type that is declared. -/
  gap : LineGap
  /-- The blanks behind the equals sign. -/
  behind : Blanks
  /-- The blanks in front of the arguments. -/
  pad : Blanks
  /-- What follows the opening parenthesis. -/
  rest : List Char

variable {scope : TypeScope} {c : Classifier} {T : ConstructedType} {p : InitializedProperty}
  {table table' : List (Nat × Nat)} {n : Nat} {d : Char} {s : List Char}

/-! ## Names -/

/-- Each range of the first table lies within one of the second, when both are sorted. -/
def within : List (Nat × Nat) → List (Nat × Nat) → Bool
  | [], _ => true
  | r :: rs, table =>
    match table.dropWhile fun r' => r'.2 < r.2 with
    | [] => false
    | r' :: rs' => r'.1 ≤ r.1 && within rs (r' :: rs')

/-- A number is in a table of ranges when one of them holds it. -/
theorem inRanges_iff : inRanges table n = true ↔ ∃ r ∈ table, r.1 ≤ n ∧ n ≤ r.2 := by
  simp only [inRanges, List.any_eq_true, Bool.and_eq_true, decide_eq_true_eq]

/-- A number that is in a table is in one that the table is within. -/
theorem inRanges_of_within (h : within table table' = true) (hn : inRanges table n = true) :
    inRanges table' n = true := by
  rw [inRanges_iff] at hn ⊢
  induction table generalizing table' with
  | nil =>
    obtain ⟨r, hr, -⟩ := hn
    cases hr
  | cons r rs ih =>
    have hhead := List.head?_dropWhile_not (fun r' : Nat × Nat => decide (r'.2 < r.2)) table'
    rw [within] at h
    split at h
    · cases h
    · next r' rs' hdrop =>
      have hsub : r' :: rs' ⊆ table' := hdrop ▸ (List.dropWhile_sublist _).subset
      rw [hdrop, List.head?_cons] at hhead
      simp only [Bool.and_eq_true, decide_eq_true_eq, decide_eq_false_iff_not] at h hhead
      obtain ⟨r₀, hr₀, hlow, hhigh⟩ := hn
      rcases List.mem_cons.mp hr₀ with rfl | hr₀
      · exact ⟨r', hsub List.mem_cons_self, by omega, by omega⟩
      · obtain ⟨r₁, hr₁, hbounds⟩ := ih h.2 ⟨r₀, hr₀, hlow, hhigh⟩
        exact ⟨r₁, hsub hr₁, hbounds⟩

/-- Capitals are letters. -/
theorem isLetter_of_isCapital (hd : isCapital d = true) : isLetter d = true := by
  rw [isCapital] at hd
  rw [isLetter]
  split_ifs at hd ⊢ with hascii
  · have halpha : d.isAlpha = (d.isUpper || d.isLower) := rfl
    rw [halpha, hd, Bool.true_or]
  · have hwithin : within Property.capitals Property.letters = true := by decide +kernel
    exact inRanges_of_within hwithin hd

namespace ConstructedType

/-- The name of a constructed type begins with a capital. -/
theorem exists_name_cons (T : ConstructedType) :
    ∃ d name, T.name = d :: name ∧ isCapital d = true := by
  obtain ⟨d, hd, hcapital⟩ := T.capitalized.first
  obtain ⟨name, hname⟩ := List.head?_eq_some_iff.mp hd
  exact ⟨d, name, hname, hcapital⟩

/-- The name as that of a type. -/
def typeName (T : ConstructedType) : TypeName where
  qualifiers := []
  simple := {
    text := T.name
    first := T.capitalized.first.imp fun _ h => ⟨h.1, .inl (isLetter_of_isCapital h.2)⟩
    rest := List.all_eq_true.mpr fun d hd => T.capitalized.plain d (List.mem_of_mem_tail hd)
    unmarked := by
      obtain ⟨d, name, hname, hcapital⟩ := T.exists_name_cons
      rw [hname]
      intro hmem
      simp only [List.mem_cons, List.not_mem_nil, or_false] at hmem
      rcases hmem with h | h <;> obtain rfl := (List.cons.inj h).1 <;>
        exact absurd hcapital (by decide) }

/-! ## Texts of constructed types -/

/-- No blank stands in the name of a constructed type. -/
theorem not_isSpace_name (T : ConstructedType) : ∀ d ∈ T.name, isSpace d = false :=
  fun d hd => not_isSpace_of_isNameChar (T.capitalized.plain d hd)

/-- The name of a constructed type is not empty. -/
theorem name_ne_nil (T : ConstructedType) : T.name ≠ [] := by
  obtain ⟨d, name, hname, -⟩ := T.exists_name_cons
  simp [hname]

/-- Neither curly brackets nor line breaks stand in the arguments. -/
theorem notMem_arguments (T : ConstructedType) (hd : d ∈ ['{', '}', '\n']) :
    d ∉ join [','] T.arguments := by
  intro hmem
  rcases mem_join hmem with ⟨a, ha, hmem⟩ | hmem
  · exact T.plain a ha d hmem hd
  · obtain rfl := List.mem_singleton.mp hmem
    exact absurd hd (by decide)

/-- No mark of a value stands outside of the brackets in the arguments of a constructed type. -/
theorem grouped_argumentsText (T : ConstructedType) :
    Grouped ['='] (argumentsText T.arguments) := by
  have hcurly : ∀ d ∈ join [','] T.arguments, d ∉ ['{', '}'] := fun d hmem hd =>
    T.notMem_arguments (List.mem_append_left ['\n'] hd) hmem
  have hjoin := (bracketed_join fun a ha => (T.bracketed a ha).1).grouped hcurly
  cases harguments : T.arguments with
  | nil => exact .nil
  | cons first more =>
    rw [harguments] at hjoin
    exact .enclose (by decide) hjoin

/-- The arguments of a constructed type are on one line. -/
theorem notMem_argumentsText (T : ConstructedType) : '\n' ∉ argumentsText T.arguments := by
  have hjoin := T.notMem_arguments (d := '\n') (by decide)
  cases harguments : T.arguments with
  | nil => exact List.not_mem_nil
  | cons first more =>
    rw [harguments] at hjoin
    simpa [argumentsText] using hjoin

/-- The type as one that may be declared. -/
def typeText (T : ConstructedType) : TypeText where
  text := T.text
  grouped := (grouped_of_plain (fun d hd => .inl (T.capitalized.plain d hd)) (by simp)).append
    T.grouped_argumentsText
  nonempty := List.append_ne_nil_of_left_ne_nil T.name_ne_nil _
  trimmed := by
    have hname : trim T.name = T.name := trim_of_forall T.not_isSpace_name
    have hblank : ¬ Blank T.name := by
      rw [← trim_eq_nil_iff, hname]
      exact T.name_ne_nil
    rw [text]
    cases T.arguments with
    | nil => rw [argumentsText, List.append_nil, hname]
    | cons first more =>
      rw [argumentsText, Text.trim_append hblank List.getLast?_concat (by decide),
        trimStart_eq_self hname]
  line := by
    rw [text, List.mem_append, not_or]
    exact ⟨fun hmem => absurd (T.capitalized.plain '\n' hmem) (by decide),
      T.notMem_argumentsText⟩
  unheld := T.unheld

end ConstructedType

/-! ## Texts of initialized properties -/

namespace InitializedProperty

/-- The text of the initial value. -/
def value (p : InitializedProperty) : List Char := p.type.text ++ p.pad.1 ++ '(' :: p.rest

/-- The property with its type. -/
def typed (p : InitializedProperty) : TypedProperty where
  front := p.front
  before := p.before
  after := p.after
  type := p.type.typeText

/-- The text of the property without its type. -/
def inferred (p : InitializedProperty) : List Char :=
  p.front.text ++ p.before.1 ++ '=' :: (p.behind.1 ++ p.value)

/-- The text of the property with its type. -/
def declared (p : InitializedProperty) : List Char :=
  p.typed.text ++ p.gap.1 ++ '=' :: (p.behind.1 ++ p.value)

/-- Without blanks around it, the value of a property is the constructed type and the call. -/
theorem trim_value (p : InitializedProperty) :
    trim (p.behind.1 ++ p.value) = p.type.text ++ p.pad.1 ++ '(' :: trimEnd p.rest := by
  rw [trim_append_left p.behind.2, value]
  exact p.type.typeText.trim_append (by decide) p.pad.1 p.rest

/-- The initial value is found to be a new object. -/
theorem constructorCall?_value (p : InitializedProperty) :
    constructorCall? (trim (p.behind.1 ++ p.value)) = some p.type.name := by
  rw [trim_value, constructorCall?_eq_some_iff_exists, ConstructedType.text]
  cases p.type.arguments with
  | nil =>
    have htext : p.type.name ++ argumentsText [] ++ p.pad.1 ++ '(' :: trimEnd p.rest =
        [] ++ p.type.name ++ p.pad.1 ++ '(' :: trimEnd p.rest := by simp [argumentsText]
    exact ⟨_, ⟨p.type.capitalized, _, _, blank_nil, p.pad.2, htext⟩, .inl rfl⟩
  | cons first more =>
    have htext : p.type.name ++ argumentsText (first :: more) ++ p.pad.1 ++ '(' :: trimEnd p.rest =
        [] ++ p.type.name ++ [] ++
          '<' :: (join [','] (first :: more) ++ ['>'] ++ p.pad.1 ++ '(' :: trimEnd p.rest) := by
      simp [argumentsText]
    exact ⟨_, ⟨p.type.capitalized, _, _, blank_nil, blank_nil, htext⟩, .inr ⟨rfl, by simp⟩⟩

/-- The value of a property does not go on a comparison. -/
theorem isComparison_value (p : InitializedProperty) {previous : Option Char}
    (h : Neutral previous) : isComparison previous (p.behind.1 ++ p.value) = false := by
  have hfirst (s : List Char) : (p.behind.1 ++ (p.type.name ++ s)).head? ≠ some '=' := by
    obtain ⟨d, name, hname, hcapital⟩ := p.type.exists_name_cons
    rw [hname]
    cases hbehind : p.behind.1 with
    | nil =>
      rintro ⟨rfl⟩
      exact absurd hcapital (by decide)
    | cons b w =>
      rintro ⟨rfl⟩
      exact absurd (p.behind.2 '=' (hbehind ▸ List.mem_cons_self)) (by decide)
  rw [h.isComparison, value, ConstructedType.text, List.append_assoc, List.append_assoc]
  exact beq_false_of_ne (hfirst _)

/-- A property without a type has its initial value and nothing else. -/
theorem property?_inferred (p : InitializedProperty) :
    property? p.inferred =
      some (p.front.property none (some (trim (p.behind.1 ++ p.value)))) := by
  have hline := p.front.inLine_append p.before
  have hgrouped : Grouped ['='] (p.front.text ++ p.before.1) :=
    grouped_of_inLine hline (by simp)
  have hcut := cutTopLevel?_mark hgrouped (by decide)
    fun _ => p.isComparison_value (neutral_of_inLine hline)
  obtain ⟨hhead, hdeclared⟩ :=
    p.front.declared?_append p.before (some (trim (p.behind.1 ++ p.value)))
  rw [inferred, property?_of_cut hcut, hhead, hdeclared]

/-- A property with its type has the type and the same initial value. -/
theorem property?_declared (p : InitializedProperty) :
    property? p.declared =
      some (p.front.property (some p.type.text) (some (trim (p.behind.1 ++ p.value)))) := by
  have hgap := inLine_of_blank p.gap.2.2.1 p.gap.2.2.2
  have hgrouped : Grouped ['='] (p.typed.text ++ p.gap.1) :=
    p.typed.grouped.append (grouped_of_inLine hgap (by simp))
  have hlast : (p.typed.text ++ p.gap.1).getLast? = p.gap.1.getLast? :=
    List.getLast?_append_of_ne_nil _ p.gap.2.1
  have hcut := cutTopLevel?_mark hgrouped (by decide)
    fun _ => p.isComparison_value (hlast ▸ neutral_of_inLine hgap)
  rw [declared, property?_of_cut hcut, headLine_eq_self (p.typed.not_endsLine ⟨p.gap.1, p.gap.2.2⟩),
    p.typed.declared?_blank p.gap.2.2.1]
  rfl

end InitializedProperty

/-! ## Readings -/

/-- What a text refers to, and whether as what a container or array holds. -/
def reading (scope : TypeScope) (s : List Char) : Option String × Bool :=
  ((TypeRef.resolve scope s).target, (TypeRef.resolve scope s).isCollection)

/-- A text that does not begin with an annotation is read as its normal form. -/
theorem reading_of_ne (scope : TypeScope) (hs : (trimStart s).head? ≠ some '@') :
    reading scope s = TypeRef.targetOf scope (TypeRef.normalized s) := by
  have hfront : TypeRef.withoutAnnotations s = trimStart s :=
    withoutAnnotations_of_ne fun rest hrest => hs (by rw [hrest]; rfl)
  rw [reading, TypeRef.resolve, hfront, TypeRef.normalized_trimStart]

/-- A text that begins with a name is read as its normal form. -/
theorem reading_of_opens (scope : TypeScope) (hs : Opens s) :
    reading scope s = TypeRef.targetOf scope (TypeRef.normalized s) := by
  obtain ⟨c, rest, hstart, hletter⟩ := hs.exists_trimStart
  refine reading_of_ne scope ?_
  rw [hstart]
  rintro ⟨rfl⟩
  exact absurd hletter (by decide)

namespace ConstructedType

/-- The name of a constructed type is a dotted name. -/
theorem dotted (T : ConstructedType) : Dotted T.typeName.qualifiers T.typeName.simple T.name := by
  have hname : Dotted [] T.typeName.simple ([] ++ T.name ++ []) := .simple _ blank_nil blank_nil
  rwa [List.nil_append, List.append_nil] at hname

/-- The name of a constructed type refers to what the type is called, without arguments. -/
theorem reading_name (scope : TypeScope) (T : ConstructedType) :
    reading scope T.name = T.typeName.reference scope none :=
  (Spells.name T.dotted).resolve (Spacing.normalizes_plain scope.settings)

/-- A constructed type begins with a name. -/
theorem opens_text (T : ConstructedType) : Opens T.text := by
  have hstops : Stops (argumentsText T.arguments) := by
    cases T.arguments with
    | nil => exact fun c hc => nomatch hc
    | cons first more => exact stops_cons (by decide) _
  exact T.dotted.opens.append_right hstops

/-- A constructed type without arguments refers to what it is called. -/
theorem reading_of_nil (scope : TypeScope) (T : ConstructedType) (h : T.arguments = []) :
    reading scope T.text = T.typeName.reference scope none := by
  rw [text, h, argumentsText, List.append_nil, T.reading_name]

/-- An arrow among the arguments hides the type. -/
theorem reading_of_arrow (scope : TypeScope) (T : ConstructedType)
    (h : ∃ a ∈ T.arguments, "->".toList <:+: a) : reading scope T.text = (none, false) := by
  obtain ⟨a, ha, harrow⟩ := h
  rw [reading_of_opens scope T.opens_text, text]
  cases harguments : T.arguments with
  | nil =>
    rw [harguments] at ha
    cases ha
  | cons first more =>
    rw [harguments] at ha
    have hinside : "->".toList <:+: join [','] (first :: more) := harrow.trans (infix_join ha)
    have hread : TypeRef.targetOf scope (TypeRef.normalized
        (T.name ++ '<' :: join [','] (first :: more) ++ ['>'])) = (none, false) :=
      targetOf_of_arrow T.dotted hinside
    rwa [List.append_assoc] at hread

/-- Else it is read by its name and its first argument. -/
theorem reading_of_cons (scope : TypeScope) (T : ConstructedType) {first : List Char}
    {more : List (List Char)} (harguments : T.arguments = first :: more)
    (h : ∀ a ∈ T.arguments, ¬ "->".toList <:+: a) :
    reading scope T.text = T.typeName.reference scope
      (TypeRef.targetOf scope (TypeRef.normalized first)).1 := by
  have hbracketed := T.bracketed
  rw [harguments] at hbracketed h
  have hread : TypeRef.targetOf scope (TypeRef.normalized
      (T.name ++ '<' :: join [','] (first :: more) ++ ['>'])) =
        T.typeName.reference scope (TypeRef.targetOf scope (TypeRef.normalized first)).1 :=
    targetOf_of_noArrow T.dotted hbracketed h
  rw [reading_of_opens scope T.opens_text, text, harguments, argumentsText]
  rwa [List.append_assoc] at hread

/-- The arguments of a type that is no container make no difference. -/
theorem reading_of_notContainer (scope : TypeScope) (T : ConstructedType)
    (hcontainer : isCollection scope.settings (String.ofList T.name) = false)
    (h : ∀ a ∈ T.arguments, ¬ "->".toList <:+: a) :
    reading scope T.text = T.typeName.reference scope none := by
  cases harguments : T.arguments with
  | nil => exact T.reading_of_nil scope harguments
  | cons first more =>
    have hname : ¬ isCollection scope.settings T.typeName.last = true := by
      rw [TypeName.last, typeName, hcontainer]
      exact Bool.false_ne_true
    rw [T.reading_of_cons scope harguments h, TypeName.reference, TypeName.reference, if_neg hname,
      if_neg hname]

end ConstructedType

/-- The reading of the type of the property in a text. -/
def propertyReading? (scope : TypeScope) (s : List Char) : Option (Option String × Bool) :=
  (property? s).map fun p => reading scope (p.type.getD p.inferredType)

/-- The relations with what a property says about its class, by the reading of its type. -/
def relationsWith (c : Classifier) (p : InitializedProperty) (read : Option String × Bool) :
    List Relation :=
  (c.relateField (String.ofList p.front.name.text)
    { display := "", target := read.1, isCollection := read.2 }
    (read.1 == some (String.ofList p.type.name))).relations

/-- A property whose value is a call gives the relations of the type that it states, or else of the
one that is called. -/
theorem relations_addProperty {q : Property} (hq : property? s = some q)
    (hname : q.name = p.front.name.text)
    (hvalue : q.value.bind constructorCall? = some p.type.name) :
    (addProperty scope c s).relations =
      relationsWith c p (reading scope (q.type.getD q.inferredType)) := by
  rw [addProperty, hq]
  simp only [hvalue, Option.map_some, Option.isSome_some, Bool.true_and, addTyped, hname]
  rfl

/-- A property without a type is read by the name of the constructor, whatever its arguments are. -/
theorem InitializedProperty.inferred_spec (scope : TypeScope) (c : Classifier)
    (p : InitializedProperty) :
    propertyReading? scope p.inferred = some (reading scope p.type.name) ∧
      (addProperty scope c p.inferred).relations =
        relationsWith c p (reading scope p.type.name) := by
  have hcall := p.constructorCall?_value
  have htype : (p.front.property none (some (trim (p.behind.1 ++ p.value)))).inferredType =
      p.type.name := by
    rw [Property.inferredType, PropertyFront.property]
    simp only [hcall]
  rw [propertyReading?, p.property?_inferred, relations_addProperty p.property?_inferred rfl hcall]
  simp only [Option.map_some, PropertyFront.property, Option.getD_none] at htype ⊢
  rw [htype]
  exact ⟨rfl, rfl⟩

/-- A property with its type is read by the type. -/
theorem InitializedProperty.declared_spec (scope : TypeScope) (c : Classifier)
    (p : InitializedProperty) :
    propertyReading? scope p.declared = some (reading scope p.type.text) ∧
      (addProperty scope c p.declared).relations =
        relationsWith c p (reading scope p.type.text) := by
  rw [propertyReading?, p.property?_declared,
    relations_addProperty p.property?_declared rfl p.constructorCall?_value]
  exact ⟨rfl, rfl⟩

/-- What a container holds is aggregated. -/
theorem relationsWith_collection (c : Classifier) (p : InitializedProperty) (target : String) :
    relationsWith c p (some target, true) =
      (c.relate {
        kind := .aggregation, target
        via := some (String.ofList p.front.name.text), cardinality := some .many }).relations :=
  rfl

/-- The two ways to write a property whose initial value is a new object. They agree when the
constructor has no type arguments, and when no arrow stands among these and the name is not that of
a container. A container is read by its first argument only where the type is declared. An arrow
among the arguments hides the type where it is declared. -/
theorem addProperty_inferred (scope : TypeScope) (c : Classifier) (p : InitializedProperty) :
    let name := String.ofList p.type.name
    (p.type.arguments = [] ∨ isCollection scope.settings name = false ∧
        (∀ a ∈ p.type.arguments, ¬ "->".toList <:+: a) →
      propertyReading? scope p.inferred = propertyReading? scope p.declared ∧
        (addProperty scope c p.inferred).relations =
          (addProperty scope c p.declared).relations) ∧
    (∀ first more, p.type.arguments = first :: more → isCollection scope.settings name = true →
        (∀ a ∈ p.type.arguments, ¬ "->".toList <:+: a) → (trimStart first).head? ≠ some '@' →
      propertyReading? scope p.inferred = some (none, true) ∧
        (addProperty scope c p.inferred).relations = c.relations ∧
        propertyReading? scope p.declared = some ((reading scope first).1, true) ∧
        ∀ target, (reading scope first).1 = some target →
          (addProperty scope c p.declared).relations =
            (c.relate {
              kind := .aggregation, target
              via := some (String.ofList p.front.name.text)
              cardinality := some .many }).relations) ∧
    ((∃ a ∈ p.type.arguments, "->".toList <:+: a) →
      propertyReading? scope p.inferred = some (p.type.typeName.reference scope none) ∧
        propertyReading? scope p.declared = some (none, false) ∧
        (addProperty scope c p.declared).relations = c.relations) := by
  intro name
  obtain ⟨hinferred, hrelations⟩ := p.inferred_spec scope c
  obtain ⟨hdeclared, hrelations'⟩ := p.declared_spec scope c
  rw [hinferred, hrelations, hdeclared, hrelations', p.type.reading_name]
  refine ⟨?_, ?_, ?_⟩
  · intro h
    have hread : reading scope p.type.text = p.type.typeName.reference scope none := by
      rcases h with harguments | ⟨hcontainer, hnone⟩
      · exact p.type.reading_of_nil scope harguments
      · exact p.type.reading_of_notContainer scope hcontainer hnone
    rw [hread]
    exact ⟨rfl, rfl⟩
  · intro first more harguments hcollection hnone hat
    have hname : ∀ held, p.type.typeName.reference scope held = (held, true) := fun held =>
      if_pos hcollection
    rw [p.type.reading_of_cons scope harguments hnone, hname, hname, ← reading_of_ne scope hat]
    refine ⟨rfl, rfl, rfl, fun target htarget => ?_⟩
    rw [htarget, relationsWith_collection]
  · intro harrow
    rw [p.type.reading_of_arrow scope harrow]
    exact ⟨rfl, rfl, rfl⟩

/-- The arguments of the list of ships hold no braces or line breaks. -/
theorem plain_shipLists : ∀ a ∈ shipLists, ∀ c ∈ a, c ∉ ['{', '}', '\n'] := by
  rw [shipLists, List.forall_mem_cons, List.forall_mem_singleton]
  exact ⟨forall_mem_of_all (by decide), forall_mem_of_all (by decide)⟩

/-- The arguments of the list of handlers hold no braces or line breaks. -/
theorem plain_shipHandlers : ∀ a ∈ shipHandlers, ∀ c ∈ a, c ∉ ['{', '}', '\n'] := by
  rw [shipHandlers, List.forall_mem_cons, List.forall_mem_singleton]
  exact ⟨forall_mem_of_all (by decide), forall_mem_of_all (by decide)⟩

/-- Pairs of a ship and ships. -/
def shipPair : ConstructedType where
  name := "Pair".toList
  arguments := shipLists
  capitalized := ⟨⟨'P', rfl, by decide⟩, forall_mem_of_all (by decide)⟩
  bracketed := bracketed_shipLists
  plain := plain_shipLists
  unheld := by decide +kernel

/-- Maps from ships to other types. -/
def shipMapping (arguments : List (List Char))
    (bracketed : ∀ a ∈ arguments, Bracketed false a ∧ ¬ Blank a)
    (plain : ∀ a ∈ arguments, ∀ c ∈ a, c ∉ ['{', '}', '\n'])
    (unheld : "by".toList ∉ words ("HashMap".toList ++ argumentsText arguments)) :
    ConstructedType where
  name := "HashMap".toList
  arguments := arguments
  capitalized := ⟨⟨'H', rfl, by decide⟩, forall_mem_of_all (by decide)⟩
  bracketed := bracketed
  plain := plain
  unheld := unheld

/-- A property whose initial value is a new object of a type. -/
def berths (T : ConstructedType) : InitializedProperty where
  front := {
    modifiers := []
    isMutable := false
    gap := oneBlank
    name := ⟨"berths".toList, by decide, forall_mem_of_all (by decide), by decide⟩ }
  type := T
  before := noBlanks
  after := lineBlank
  gap := oneBlank
  behind := ⟨oneBlank.1, oneBlank.2.2.1⟩
  pad := ⟨[], blank_nil⟩
  rest := [')']

/-- A pair is read alike in both ways, a map is read by its first argument where it is declared, and
a map to functions is hidden there. -/
theorem addProperty_inferred_berths :
    let scope := typeScope {} []
    let bare : Classifier := { name := "Dock", kind := .plain }
    let lists := berths (shipMapping shipLists bracketed_shipLists plain_shipLists
      (by decide +kernel))
    let functions := berths (shipMapping shipHandlers bracketed_shipHandlers plain_shipHandlers
      (by decide +kernel))
    (berths shipPair).declared =
        "val berths: Pair<Ship, List<out Ship>> = Pair<Ship, List<out Ship>>()".toList ∧
      (addProperty scope bare (berths shipPair).inferred).relations =
        (addProperty scope bare (berths shipPair).declared).relations ∧
      (addProperty scope bare lists.inferred).relations = [] ∧
      propertyReading? scope lists.declared = some (some "Ship", true) ∧
      propertyReading? scope functions.inferred = some (none, true) ∧
      propertyReading? scope functions.declared = some (none, false) := by
  intro scope bare lists functions
  have hnone : ∀ a ∈ shipLists, ¬ "->".toList <:+: a := by decide +kernel
  obtain ⟨hagree, -, -⟩ := addProperty_inferred scope bare (berths shipPair)
  obtain ⟨-, hcontainer, -⟩ := addProperty_inferred scope bare lists
  obtain ⟨-, -, harrow⟩ := addProperty_inferred scope bare functions
  obtain ⟨-, hrelations, hdeclared, -⟩ := hcontainer _ _ rfl (by decide) hnone (by decide)
  obtain ⟨hinferred, hhidden, -⟩ := harrow (by decide +kernel)
  refine ⟨by decide +kernel, (hagree (.inr ⟨by decide, hnone⟩)).2, hrelations, ?_, ?_, hhidden⟩
  · rw [hdeclared]
    decide +kernel
  · rw [hinferred]
    decide +kernel

/-- A container that is made in a property holds ships where its type is declared, and nothing where
the type is inferred. -/
theorem addProperty_container :
    let scope := typeScope {} []
    let bare : Classifier := { name := "Dock", kind := .plain }
    let declared := "val berths: ArrayList<Ship> = ArrayList<Ship>()".toList
    let inferred := "val berths = ArrayList<Ship>()".toList
    propertyReading? scope declared = some (some "Ship", true) ∧
      propertyReading? scope inferred = some (none, true) ∧
      addProperty scope bare declared =
        { bare with
          fields := [{ name := "berths", typeName := "ArrayList<Ship>", visibility := .toAll }]
          relations := [{ kind := .aggregation, target := "Ship", via := some "berths"
                          cardinality := some .many }] } ∧
      addProperty scope bare inferred =
        { bare with
          fields := [{ name := "berths", typeName := "ArrayList", visibility := .toAll }] } :=
  ⟨by decide +kernel, by decide +kernel, by decide +kernel, by decide +kernel⟩

end ClassGraph.Source.Kotlin
