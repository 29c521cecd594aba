import ClassGraph.Proofs.Source.TypeReading

/-!
# Readings of arbitrary texts

What holds of the reading of every text, whether it is the text of a type or not. Every target comes
from a name that was found in some part of the text and passed all the tests of a declared type
(`exists_named_of_target`), so that no target is a value, a container or a type parameter
(`resolve_relates`), and more type parameters in scope only take targets away
(`target_resolve_parameters`). The display of a reading is read as the text was (`resolve_display`):
its blanks are normalized, and it does not begin with an annotation.
-/

namespace ClassGraph

open Text TypeRef TypeSyntax

/-- The name may be that of a declared type: it is simple, and it is none of a value, a container
and a type parameter. -/
structure TypeScope.Relates (scope : TypeScope) (name : String) : Prop where
  /-- It is not empty. -/
  nonempty : name ≠ ""
  /-- It begins with a letter or an underscore. -/
  first : ∃ c ∈ name.toList.head?, isLetter c = true ∨ c = '_'
  /-- No blank stands in front of it. -/
  start : ∀ c ∈ name.toList.head?, isSpace c = false
  /-- No blank stands behind it. -/
  finish : ∀ c ∈ name.toList.getLast?, isSpace c = false
  /-- Neither a package nor type arguments belong to it. -/
  simple : '.' ∉ name.toList ∧ '<' ∉ name.toList
  /-- It holds no arrow. -/
  noArrow : ¬ "->".toList <:+: name.toList
  /-- It is no value, neither of the language nor of the settings. -/
  noValue : name ∉ scope.language.primitives ∧ name ∉ scope.settings.extraPrimitives
  /-- It is no container, neither one known to all nor one of the settings. -/
  noContainer : name ∉ containers ∧ name ∉ scope.settings.extraCollections
  /-- It is no type parameter. -/
  noParameter : name ∉ scope.parameters

namespace TypeRef

variable {scope : TypeScope} {settings : Extraction} {s t : List Char} {name name' : String}

/-! ## Where targets come from -/

/-- A name refers to a declared type when it is no primitive one and no parameter, and begins like a
name. -/
theorem declaredType_eq_some_iff : declaredType scope name = some name' ↔
    name = name' ∧ isPrimitive scope.language scope.settings name = false ∧
      name ∉ scope.parameters ∧ ∃ c ∈ name.toList.head?, isLetter c = true ∨ c = '_' := by
  have hfirst : (name.toList.head?.any fun c => isLetter c || c == '_') = true ↔
      ∃ c ∈ name.toList.head?, isLetter c = true ∨ c = '_' := by
    simp [Option.any_eq_true]
  rw [declaredType]
  split_ifs with hnone
  · refine iff_of_false (by simp) ?_
    rintro ⟨-, hvalue, hparameter, hletter⟩
    simp [hvalue, hparameter, hfirst.mpr hletter] at hnone
  · simp only [Bool.or_eq_true, Bool.not_eq_true', List.contains_iff_mem, not_or,
      Bool.not_eq_true, Bool.not_eq_false] at hnone
    obtain ⟨⟨hvalue, hparameter⟩, hletter⟩ := hnone
    rw [Option.some.injEq]
    exact (and_iff_left ⟨hvalue, hparameter, hfirst.mp hletter⟩).symm

/-- What a shape that is a name says of the text. -/
theorem shapeOf_eq_named (h : shapeOf settings s = .named name) :
    isFunctionType (core s) = false ∧ ClassGraph.isCollection settings name = false ∧
      name = nameOf (core s) := by
  rw [shapeOf] at h
  by_cases hnothing : refersToNothing (core s) = true
  · rw [if_pos hnothing] at h
    cases h
  rw [if_neg hnothing] at h
  cases helement : element? (core s) with
  | some inner =>
    rw [helement] at h
    cases h
  | none =>
    simp only [helement] at h
    by_cases hcontainer : ClassGraph.isCollection settings (nameOf (core s)) = true
    · rw [if_pos hcontainer] at h
      cases h
    rw [if_neg hcontainer] at h
    obtain rfl := Shape.named.inj h
    simp only [refersToNothing, Bool.or_eq_true, not_or] at hnothing
    exact ⟨by simpa using hnothing.2, by simpa using hcontainer, rfl⟩

/-- Every target is the name of some part of the text, be it the text itself or what a container in
it holds. -/
theorem exists_named_of_target (h : (targetOf scope s).1 = some name) :
    ∃ t, shapeOf scope.settings t = .named name ∧ declaredType scope name = some name := by
  induction s using follow.induct (shapeOf scope.settings) length_held_lt with
  | case1 s hshape =>
    rw [targetOf_of_nothing hshape] at h
    cases h
  | case2 s name' hshape =>
    rw [targetOf_of_named hshape] at h
    obtain rfl := (declaredType_eq_some_iff.mp h).1
    exact ⟨s, hshape, h⟩
  | case3 s hshape =>
    rw [targetOf_of_container hshape] at h
    cases h
  | case4 s inner hshape ih =>
    rw [targetOf_of_container hshape, Option.bind_some] at h
    exact ih h

/-- The name of a text is a piece of the text. -/
theorem isInfix_nameOf (s : List Char) : (nameOf s).toList <:+: s := by
  have hname : (nameOf s).toList = simpleName (genericBase s) := String.toList_ofList
  rw [hname, simpleName]
  have hlast : afterLast '.' (genericBase s) <:+: s :=
    (isSuffix_afterLast '.' _).isInfix.trans (isPrefix_beforeChar '<' s).isInfix
  exact (isInfix_trim _).trans hlast

/-- The name of a text has neither a package nor arguments. -/
theorem nameOf_simple (s : List Char) : '.' ∉ (nameOf s).toList ∧ '<' ∉ (nameOf s).toList := by
  have hname : (nameOf s).toList = simpleName (genericBase s) := String.toList_ofList
  have hsub := trim_sublist (afterLast '.' (genericBase s))
  rw [hname, simpleName]
  refine ⟨fun hmem => notMem_afterLast '.' _ (hsub.subset hmem), fun hmem => ?_⟩
  exact notMem_beforeChar '<' s ((isSuffix_afterLast '.' _).subset (hsub.subset hmem))

/-- A target may be the name of a declared type. -/
theorem relates_of_target (h : (targetOf scope s).1 = some name) : scope.Relates name := by
  obtain ⟨t, hshape, hdeclared⟩ := exists_named_of_target h
  obtain ⟨hfunction, hcontainer, hname⟩ := shapeOf_eq_named hshape
  obtain ⟨-, hvalue, hparameter, hfirst⟩ := declaredType_eq_some_iff.mp hdeclared
  have htrim : name.toList = trim (afterLast '.' (genericBase (core t))) := by
    rw [hname]
    exact String.toList_ofList
  have hnoArrow : ¬ "->".toList <:+: core t := by
    rw [← containsText_iff, ← isFunctionType, hfunction]
    exact Bool.false_ne_true
  rw [isPrimitive, Bool.or_eq_false_iff] at hvalue
  rw [ClassGraph.isCollection, Bool.or_eq_false_iff] at hcontainer
  exact {
    nonempty := by
      rintro rfl
      obtain ⟨c, hc, -⟩ := hfirst
      cases hc
    first := hfirst
    start := fun c hc => not_isSpace_of_mem_head?_trim (htrim ▸ hc)
    finish := fun c hc => not_isSpace_of_mem_getLast?_trim (htrim ▸ hc)
    simple := hname ▸ nameOf_simple (core t)
    noArrow := fun harrow => hnoArrow (harrow.trans (hname ▸ isInfix_nameOf (core t)))
    noValue := by simpa using hvalue
    noContainer := by simpa using hcontainer
    noParameter := hparameter }

/-! ## Type parameters in scope -/

/-- Further type parameters take away the targets that are among them. -/
theorem targetOf_parameters (scope : TypeScope) (names : List String) (s : List Char) :
    (targetOf { scope with parameters := scope.parameters ++ names } s).1 =
      (targetOf scope s).1.filter (· ∉ names) := by
  obtain ⟨wider, hwider⟩ :
    ∃ wider, wider = { scope with parameters := scope.parameters ++ names } := ⟨_, rfl⟩
  have hsettings : wider.settings = scope.settings := by rw [hwider]
  rw [← hwider]
  -- What a text says by itself does not depend on the parameters, so that both follow one path.
  induction s using follow.induct (shapeOf scope.settings) length_held_lt with
  | case1 s hshape =>
    rw [targetOf_of_nothing hshape, targetOf_of_nothing (hsettings ▸ hshape), Option.filter_none]
  | case2 s name hshape =>
    rw [targetOf_of_named hshape, targetOf_of_named (hsettings ▸ hshape)]
    ext name'
    rw [Option.filter_eq_some_iff, declaredType_eq_some_iff, declaredType_eq_some_iff, hwider,
      List.mem_append, not_or, decide_eq_true_eq]
    constructor
    · rintro ⟨rfl, hvalue, ⟨hparameter, hname⟩, hfirst⟩
      exact ⟨⟨rfl, hvalue, hparameter, hfirst⟩, hname⟩
    · rintro ⟨⟨rfl, hvalue, hparameter, hfirst⟩, hname⟩
      exact ⟨rfl, hvalue, ⟨hparameter, hname⟩, hfirst⟩
  | case3 s hshape =>
    rw [targetOf_of_container hshape, targetOf_of_container (hsettings ▸ hshape)]
    rfl
  | case4 s inner hshape ih =>
    rw [targetOf_of_container hshape, targetOf_of_container (hsettings ▸ hshape),
      Option.bind_some, Option.bind_some, ih]

/-- More names of parameters leave the target of a text as it is, or take it away when it is one of
them. -/
theorem target_resolve_parameters (scope : TypeScope) (names : List String) (s : List Char) :
    (resolve { scope with parameters := scope.parameters ++ names } s).target =
      (resolve scope s).target.filter (· ∉ names) :=
  targetOf_parameters scope names (normalized (withoutAnnotations s))

/-! ## Displays -/

/-- Behind the annotations in front of a text stands neither a blank nor a further one. -/
theorem withoutAnnotations_start (s : List Char) : ∀ c ∈ (withoutAnnotations s).head?,
    isSpace c = false ∧ c ≠ '@' := by
  induction s using withoutAnnotations.induct with
  | case1 s rest hstart ih => rwa [withoutAnnotations_of_at hstart]
  | case2 s hnone =>
    intro c hc
    rw [withoutAnnotations_of_ne hnone] at hc
    refine ⟨not_isSpace_of_mem_head?_trimStart hc, ?_⟩
    rintro rfl
    obtain ⟨rest, hrest⟩ := List.head?_eq_some_iff.mp hc
    exact hnone rest hrest

/-- The normal form of a text without annotations has none in front of it either. -/
theorem withoutAnnotations_normalized (s : List Char) :
    withoutAnnotations (normalized (withoutAnnotations s)) = normalized (withoutAnnotations s) := by
  have hstart (t : List Char) : trimStart (normalized t) = normalized t := by
    rw [← trim_normalized, trimStart_trim]
  refine (withoutAnnotations_of_ne fun rest hrest => ?_).trans (hstart _)
  rw [hstart] at hrest
  cases hs : withoutAnnotations s with
  | nil =>
    rw [hs, normalized_of_blank blank_nil] at hrest
    cases hrest
  | cons c rest' =>
    obtain ⟨hspace, hat⟩ := withoutAnnotations_start s c (by rw [hs]; rfl)
    obtain ⟨rest'', hnormal⟩ := exists_normalized_cons hspace rest'
    rw [hs, hnormal] at hrest
    exact hat (List.cons.inj hrest).1

end TypeRef

/-- Whatever is read, in any language, under any settings and with any type parameters in scope: a
target is a name that may be declared. It is never a value, a container or a type parameter, and no
punctuation of types is left in it. -/
theorem resolve_relates (scope : TypeScope) (raw : List Char) (name : String)
    (h : (TypeRef.resolve scope raw).target = some name) : scope.Relates name :=
  relates_of_target h

/-- A text that is no type may have a target, too. -/
theorem relates_ship :
    let scope : TypeScope := { language := .kotlin, settings := {}, parameters := ["T"] }
    (TypeRef.resolve scope "@A Map<out fleet . Ship ?, T, (<".toList).target = some "Ship" ∧
      scope.Relates "Ship" :=
  have htarget : (TypeRef.resolve { language := .kotlin, settings := {}, parameters := ["T"] }
      "@A Map<out fleet . Ship ?, T, (<".toList).target = some "Ship" := by decide +kernel
  ⟨htarget, resolve_relates _ _ _ htarget⟩

/-- The display of a reading is read as the text itself. -/
theorem resolve_display (scope : TypeScope) (raw : List Char) :
    TypeRef.resolve scope (TypeRef.resolve scope raw).display.toList =
      TypeRef.resolve scope raw := by
  have hdisplay : (TypeRef.resolve scope raw).display.toList =
      normalized (withoutAnnotations raw) := String.toList_ofList
  have hagain : normalized (withoutAnnotations (normalized (withoutAnnotations raw))) =
      normalized (withoutAnnotations raw) := by
    rw [withoutAnnotations_normalized, normalized_normalized]
  rw [hdisplay, TypeRef.resolve, TypeRef.resolve, hagain]

end ClassGraph
