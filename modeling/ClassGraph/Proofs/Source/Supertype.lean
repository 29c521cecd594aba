import Mathlib.Data.List.Find
import ClassGraph.Proofs.Source.Inference
import ClassGraph.Proofs.Source.TypeParameter
import ClassGraph.Source.Kotlin.Model

/-!
# Supertypes by their texts

A supertype is the call of a constructor, a bare type, or a type that is delegated to an expression
(`Specifier`). Its name is found in each of them, whatever stands in its brackets and in the
expression (`supertypeName?_text`). Whether it is the superclass is decided by a single character:
the first supertype whose text holds an opening parenthesis is, and all others are interfaces
(`classifier_supertypes`). That is the call of a constructor as long as no type argument and no
expression holds a parenthesis.
-/

namespace ClassGraph.Source.Kotlin

open Text TokenTree TypeSyntax

/-! ## Supertypes -/

/-- A part of a dotted name. -/
structure Segment where
  /-- The characters of the part. -/
  text : List Char
  /-- There is at least one. -/
  nonempty : text ≠ []
  /-- Neither blanks nor dots nor brackets are among them. -/
  plain : ∀ c ∈ text, isSpace c = false ∧ c ∉ ['(', '<', '.']

/-- What follows the type of a supertype. -/
inductive SpecifierTail where
  /-- Nothing: the type is an interface. -/
  | bare
  /-- The arguments of its constructor. -/
  | called (gap : Blanks) (arguments : List Char)
  /-- The word `by` and an expression. -/
  | delegated (gap : Gap) (delegate : List Char)

/-- A supertype as it is written. -/
structure Specifier where
  /-- The names in front of the simple name, outermost first. -/
  qualifiers : List Segment
  /-- The simple name. -/
  name : Segment
  /-- What stands between angle brackets behind the name, and the blanks in front of them. -/
  typeArguments : Option (Blanks × List Char)
  /-- What follows the type. -/
  tail : SpecifierTail

/-- The text behind the type of a supertype. -/
def SpecifierTail.text : SpecifierTail → List Char
  | .bare => []
  | .called gap arguments => gap.1 ++ '(' :: (arguments ++ [')'])
  | .delegated gap delegate => gap.1 ++ ("by".toList ++ delegate)

namespace Specifier

/-- The text of a dotted name. -/
def dotted (s : Specifier) : List Char :=
  s.qualifiers.flatMap (fun q => q.text ++ ['.']) ++ s.name.text

/-- The text of the type arguments with their brackets. -/
def argumentText (s : Specifier) : List Char :=
  s.typeArguments.elim [] fun (gap, arguments) => gap.1 ++ '<' :: (arguments ++ ['>'])

/-- The text of a supertype. -/
def text (s : Specifier) : List Char := s.dotted ++ (s.argumentText ++ s.tail.text)

/-- The name that a supertype is known by. -/
def simple (s : Specifier) : String := String.ofList s.name.text

/-- Whether a constructor is called. -/
def isCall (s : Specifier) : Bool := s.tail matches .called _ _

/-- Whether an opening parenthesis stands anywhere in the text. -/
def looksCalled (s : Specifier) : Bool := s.text.contains '('

/-- Whether an opening parenthesis stands among the type arguments, or in the expression to which a
type is delegated. -/
def HidesParenthesis (s : Specifier) : Prop :=
  (∃ gap arguments, s.typeArguments = some (gap, arguments) ∧ '(' ∈ arguments) ∨
    ∃ gap delegate, s.tail = .delegated gap delegate ∧ '(' ∈ delegate

end Specifier

variable {s : Specifier} {specifiers : List Specifier} {c : Classifier}
  {listed : List (List TokenTree)} {settings : Extraction} {package : Option String}
  {d : Declaration}

/-! ## The name of a supertype -/

/-- A blank or an opening bracket ends a dotted name. -/
def EndsName (t : List Char) : Prop := ∀ c ∈ t.head?, isSpace c = true ∨ c ∈ ['(', '<']

/-- Behind blanks, an opening bracket ends a name. -/
theorem endsName_gap {w : List Char} (hw : Blank w) {c : Char} (hc : c ∈ ['(', '<'])
    (t : List Char) : EndsName (w ++ c :: t) := by
  intro b hb
  cases w with
  | nil =>
    obtain rfl : c = b := Option.some.inj hb
    exact .inr hc
  | cons b' w =>
    obtain rfl : b' = b := Option.some.inj hb
    exact .inl (hw b' List.mem_cons_self)

/-- What follows a supertype ends its name. -/
theorem SpecifierTail.endsName_text (tail : SpecifierTail) : EndsName tail.text := by
  cases tail with
  | bare => exact fun c hc => absurd hc (by simp [SpecifierTail.text])
  | called gap arguments => exact endsName_gap gap.2 (by decide) _
  | delegated gap delegate =>
    obtain ⟨w, hne, hw⟩ := gap
    obtain ⟨b, w, rfl⟩ := List.exists_cons_of_ne_nil hne
    intro c hc
    obtain rfl : b = c := Option.some.inj hc
    exact .inl (hw b List.mem_cons_self)

namespace Specifier

/-- The arguments of a supertype and what follows them end its name. -/
theorem endsName_rest (s : Specifier) : EndsName (s.argumentText ++ s.tail.text) := by
  rw [argumentText]
  cases s.typeArguments with
  | none => exact s.tail.endsName_text
  | some pair =>
    rw [Option.elim_some, List.append_assoc, List.cons_append]
    exact endsName_gap pair.1.2 (by decide) _

/-- No blank and no bracket stands in the dotted name of a supertype. -/
theorem plain_dotted (s : Specifier) :
    ∀ c ∈ s.dotted, isSpace c = false ∧ c ∉ ['(', '<'] := by
  have hsegment (segment : Segment) : ∀ c ∈ segment.text, isSpace c = false ∧ c ∉ ['(', '<'] :=
    fun c hc => ⟨(segment.plain c hc).1,
      fun h => (segment.plain c hc).2 (List.mem_append_left ['.'] h)⟩
  rw [dotted, List.forall_mem_append]
  refine ⟨fun c hc => ?_, hsegment s.name⟩
  obtain ⟨q, -, hc⟩ := List.mem_flatMap.mp hc
  rcases List.mem_append.mp hc with hc | hc
  · exact hsegment q c hc
  · obtain rfl := List.mem_singleton.mp hc
    decide

/-- The dotted name of a supertype is not empty. -/
theorem dotted_ne_nil (s : Specifier) : s.dotted ≠ [] := by
  simp [dotted, s.name.nonempty]

/-- The simple name of a dotted name is the last of its names. -/
theorem simpleName_dotted (s : Specifier) : TypeRef.simpleName s.dotted = s.name.text := by
  have hname : '.' ∉ s.name.text := fun h => (s.name.plain _ h).2 (by decide)
  have hlast (qs : List Segment) :
      afterLast '.' (qs.flatMap (fun q => q.text ++ ['.']) ++ s.name.text) = s.name.text := by
    induction qs with
    | nil => exact afterLast_eq_self hname
    | cons q qs ih =>
      rw [List.flatMap_cons, List.append_assoc, List.append_assoc, List.singleton_append,
        afterLast_append, ih]
  rw [TypeRef.simpleName, dotted, hlast]
  exact trim_of_forall fun c hc => (s.name.plain c hc).1

/-- The name of a supertype is found, whatever stands behind it. -/
theorem supertypeName?_text (s : Specifier) : supertypeName? s.text = some s.simple := by
  have hplain := s.plain_dotted
  -- Each of the three cuts keeps the dotted name, and one of them ends at the character behind it.
  have hcuts : ((((s.argumentText ++ s.tail.text).takeWhile (· != '(')).takeWhile
      (!isSpace ·)).takeWhile (· != '<')) = [] := by
    have hends := s.endsName_rest
    cases hrest : s.argumentText ++ s.tail.text with
    | nil => rfl
    | cons c rest =>
      rw [List.takeWhile_takeWhile, List.takeWhile_takeWhile]
      refine List.takeWhile_cons_of_neg ?_
      rcases hends c (by simp [hrest]) with hspace | hbracket
      · simp [hspace]
      · rcases List.mem_cons.mp hbracket with rfl | hbracket
        · simp
        · simp [List.mem_singleton.mp hbracket]
  have hhead : beforeChar '(' s.text =
      s.dotted ++ (s.argumentText ++ s.tail.text).takeWhile (· != '(') :=
    List.takeWhile_append_of_pos (bne_of_notMem fun h => (hplain _ h).2 (by decide))
  have hbase : genericBase (((words (beforeChar '(' s.text)).headD [])) = s.dotted := by
    rw [hhead, words_word_append (fun c hc => (hplain c hc).1) s.dotted_ne_nil, List.headD_cons,
      genericBase, beforeChar, List.takeWhile_append_of_pos
        (bne_of_notMem fun h => (hplain _ h).2 (by decide)), hcuts, List.append_nil]
  have hnonempty : s.name.text.isEmpty = false := by
    simpa [List.isEmpty_iff] using s.name.nonempty
  rw [supertypeName?]
  simp only [hbase, s.simpleName_dotted, hnonempty, Bool.false_eq_true, if_false, simple]

/-- A text holds an opening parenthesis where a constructor is called, and where one is hidden. -/
theorem looksCalled_iff (s : Specifier) :
    s.looksCalled = true ↔ s.isCall = true ∨ s.HidesParenthesis := by
  have hdotted : '(' ∉ s.dotted := fun h => (s.plain_dotted _ h).2 (by decide)
  have hblank (w : List Char) (hw : Blank w) : '(' ∉ w := hw.notMem (by decide)
  have harguments : '(' ∈ s.argumentText ↔
      ∃ gap arguments, s.typeArguments = some (gap, arguments) ∧ '(' ∈ arguments := by
    rw [argumentText]
    cases s.typeArguments with
    | none => simp
    | some pair => simp [hblank _ pair.1.2, Prod.ext_iff]
  have htail : '(' ∈ s.tail.text ↔
      s.isCall = true ∨ ∃ gap delegate, s.tail = .delegated gap delegate ∧ '(' ∈ delegate := by
    rw [isCall]
    cases s.tail with
    | bare => simp [SpecifierTail.text]
    | called gap arguments => simp [SpecifierTail.text]
    | delegated gap delegate => simp [SpecifierTail.text, hblank _ gap.2.2]
  rw [looksCalled, List.contains_iff_mem, text, List.mem_append, List.mem_append, harguments, htail,
    HidesParenthesis]
  simp only [hdotted, false_or]
  exact or_left_comm

end Specifier

/-! ## One supertype after another -/

/-- A supertype becomes the superclass when it looks called and there is none, and else an
interface. -/
theorem addSupertype_of_text {trees : List TokenTree} (h : TokenTree.text trees = s.text) :
    addSupertype c trees =
      if s.looksCalled && c.kind != .interface && c.superclass.isNone then
        { c with superclass := some s.simple }
      else { c with interfaces := c.interfaces ++ [s.simple] } := by
  simp only [addSupertype, h, s.supertypeName?_text]
  rfl

/-- The first supertype that looks called is the superclass, when there is none yet. -/
theorem foldl_addSupertype (hkind : c.kind ≠ .interface)
    (hlisted : listed.map TokenTree.text = specifiers.map Specifier.text) :
    listed.foldl addSupertype c =
      { c with
        superclass := c.superclass.or
          ((specifiers.find? Specifier.looksCalled).map Specifier.simple)
        interfaces := c.interfaces ++ (if c.superclass.isSome then specifiers
          else specifiers.eraseP Specifier.looksCalled).map Specifier.simple } := by
  -- The superclass of the model so far decides whether one is still looked for.
  induction specifiers generalizing listed c with
  | nil =>
    obtain rfl : listed = [] := List.map_eq_nil_iff.mp hlisted
    simp
  | cons s specifiers ih =>
    obtain ⟨trees, listed, rfl, htext, hlisted⟩ := List.map_eq_cons_iff.mp hlisted
    have hkind' : (c.kind != .interface) = true := bne_iff_ne.mpr hkind
    rw [List.foldl_cons, addSupertype_of_text htext, hkind', Bool.and_true]
    cases hsuper : c.superclass with
    | some name =>
      rw [Option.isNone_some, Bool.and_false, if_neg Bool.false_ne_true]
      refine (ih (by exact hkind) hlisted).trans ?_
      simp
    | none =>
      cases hlooks : s.looksCalled with
      | true =>
        rw [Option.isNone_none, Bool.and_true, if_pos rfl]
        refine (ih (by exact hkind) hlisted).trans ?_
        simp [hlooks]
      | false =>
        rw [Bool.false_and, if_neg Bool.false_ne_true]
        refine (ih (by exact hkind) hlisted).trans ?_
        simp [hlooks]

/-! ## The rest of a declaration -/

/-- What a class model says of the supertypes. -/
def supertypes (c : Classifier) : Option String × List String := (c.superclass, c.interfaces)

/-- What each step leaves alone, all of them do. -/
theorem supertypes_foldl {α : Type} {step : Classifier → α → Classifier}
    (h : ∀ c a, supertypes (step c a) = supertypes c) (as : List α) (c : Classifier) :
    supertypes (as.foldl step c) = supertypes c := by
  induction as generalizing c with
  | nil => rfl
  | cons a as ih => rw [List.foldl_cons, ih, h]

/-- A constant adds no supertype. -/
theorem supertypes_addConstant (c : Classifier) (name : String) :
    supertypes (c.addConstant name) = supertypes c := rfl

/-- A typed property adds no supertype. -/
theorem supertypes_addTyped (c : Classifier) (p : Property) (type : TypeRef) (owned : Bool) :
    supertypes (addTyped c p type owned) = supertypes c := by
  obtain ⟨relations, hrelated⟩ := c.exists_relateField (String.ofList p.name) type owned
  simp only [addTyped, hrelated]
  rfl

/-- A property in a constructor adds no supertype. -/
theorem supertypes_addConstructorProperty (scope : TypeScope) (c : Classifier)
    (written : List Char) :
    supertypes (addConstructorProperty scope c written) = supertypes c := by
  rw [addConstructorProperty]
  split
  · rfl
  · split
    · rfl
    · exact supertypes_addTyped ..

/-- A property adds no supertype. -/
theorem supertypes_addProperty (scope : TypeScope) (c : Classifier) (written : List Char) :
    supertypes (addProperty scope c written) = supertypes c := by
  rw [addProperty]
  split
  · rfl
  · exact supertypes_addTyped ..

/-- A member adds no supertype. -/
theorem supertypes_addMember (scope : TypeScope) (c : Classifier) (m : Member) :
    supertypes (addMember scope c m) = supertypes c := by
  cases m with
  | property trees => exact supertypes_addProperty ..
  | function modifiers typeParameters name parameters result hasBody =>
    obtain ⟨m, relations, hadded, -⟩ :=
      exists_addFunction scope c modifiers typeParameters name parameters result hasBody
    rw [addMember, hadded]
    rfl
  | other => rfl

/-- Parameters and members of a declaration do not count for its supertypes. -/
theorem supertypes_classifier (settings : Extraction) (package : Option String)
    (hkind : d.kind ≠ .interface)
    (hwritten : d.supertypes.map TokenTree.text = specifiers.map Specifier.text) :
    supertypes (classifier settings package d) =
      ((specifiers.find? Specifier.looksCalled).map Specifier.simple,
        (specifiers.eraseP Specifier.looksCalled).map Specifier.simple) := by
  rw [classifier]
  dsimp only
  rw [supertypes_foldl (supertypes_addMember _),
    supertypes_foldl supertypes_addConstant,
    supertypes_foldl (supertypes_addConstructorProperty _),
    foldl_addSupertype (by exact hkind) hwritten]
  simp [supertypes]

/-- Of a list the same element is taken away by tests that agree on its elements. -/
theorem eraseP_congr {α : Type} {p q : α → Bool} {l : List α} (h : ∀ a ∈ l, p a = q a) :
    l.eraseP p = l.eraseP q := by
  induction l with
  | nil => rfl
  | cons a l ih =>
    rw [List.forall_mem_cons] at h
    rw [List.eraseP_cons, List.eraseP_cons, h.1, ih h.2]

/-- Where `p` holds once at most, the first on which it holds is the only one. -/
theorem eraseP_eq_filter {α : Type} {p : α → Bool} {l : List α} (h : l.countP p ≤ 1) :
    l.eraseP p = l.filter fun a => !p a := by
  induction l with
  | nil => rfl
  | cons a l ih =>
    cases hp : p a with
    | true =>
      have hnone : ∀ b ∈ l, p b = false := by
        rw [List.countP_cons_of_pos hp] at h
        simpa using List.countP_eq_zero.mp (by omega : l.countP p = 0)
      rw [List.eraseP_cons_of_pos hp, List.filter_cons_of_neg (by simp [hp]), eq_comm,
        List.filter_eq_self]
      exact fun b hb => by simp [hnone b hb]
    | false =>
      rw [List.countP_cons_of_neg (by simp [hp])] at h
      rw [List.eraseP_cons_of_neg (by simp [hp]), List.filter_cons_of_pos (by simp [hp]), ih h]

/-- The first supertype whose text holds an opening parenthesis is the superclass, and the others
are the interfaces in their order, each by its simple name. A parenthesis is there for a call, or
hidden among type arguments or in an expression. Where none is hidden, the superclass is the one
that is called, if any, and the interfaces are those that are not. -/
theorem classifier_supertypes (settings : Extraction) (package : Option String)
    (hkind : d.kind ≠ .interface)
    (hwritten : d.supertypes.map TokenTree.text = specifiers.map Specifier.text) :
    let c := classifier settings package d
    (c.superclass = (specifiers.find? Specifier.looksCalled).map Specifier.simple ∧
      c.interfaces = (specifiers.eraseP Specifier.looksCalled).map Specifier.simple) ∧
    (∀ s ∈ specifiers, s.looksCalled = true ↔ s.isCall = true ∨ s.HidesParenthesis) ∧
    ((∀ s ∈ specifiers, s.isCall = false → ¬ s.HidesParenthesis) →
      c.superclass = (specifiers.find? Specifier.isCall).map Specifier.simple ∧
      c.interfaces = (specifiers.eraseP Specifier.isCall).map Specifier.simple ∧
      (specifiers.countP Specifier.isCall ≤ 1 →
        c.interfaces = (specifiers.filter fun s => !s.isCall).map Specifier.simple)) := by
  have hboth := supertypes_classifier settings package hkind hwritten
  have hsuper := congrArg Prod.fst hboth
  have hinterfaces := congrArg Prod.snd hboth
  refine ⟨⟨hsuper, hinterfaces⟩, fun s _ => s.looksCalled_iff, fun hplain => ?_⟩
  have hcalls : ∀ s ∈ specifiers, s.looksCalled = s.isCall := by
    intro s hs
    rw [Bool.eq_iff_iff, s.looksCalled_iff, or_iff_left_iff_imp]
    intro hhidden
    by_contra hcall
    exact hplain s hs (by simpa using hcall) hhidden
  rw [List.find?_congr hcalls] at hsuper
  rw [eraseP_congr hcalls] at hinterfaces
  refine ⟨hsuper, hinterfaces, fun hone => ?_⟩
  rwa [eraseP_eq_filter hone] at hinterfaces

/-! ## Two declarations -/

/-- A word in the trees of a declaration, with a blank in front of it or none. -/
def wordTree (gap word : String) : TokenTree := .leaf ⟨gap, .word, word⟩

/-- A pair of parentheses with nothing between them. -/
def emptyParens : TokenTree := .group ⟨"", .opener, "("⟩ [] (some ⟨"", .closer, ")"⟩)

/-- A class with some supertypes and nothing else. -/
def panel (supertypes : List (List TokenTree)) : Declaration where
  kind := .plain
  modifiers := []
  name := "Panel"
  typeParameters := []
  parameters := []
  supertypes := supertypes
  body := none
  length := 2 + supertypes.length + supertypes.flatten.length

/-- The supertype `View()`. -/
def calledView : Specifier where
  qualifiers := []
  name := ⟨"View".toList, by decide, forall_mem_of_all (by decide)⟩
  typeArguments := none
  tail := .called ⟨[], blank_nil⟩ []

/-- A supertype `Drawable`, delegated to an expression. -/
def delegatedDrawable (delegate : List Char) : Specifier where
  qualifiers := []
  name := ⟨"Drawable".toList, by decide, forall_mem_of_all (by decide)⟩
  typeArguments := none
  tail := .delegated ClassGraph.oneBlank delegate

/-- The class `Panel : View(), Drawable by canvas` extends the one and implements the other. -/
theorem classifier_supertypes_panel :
    let d := panel [[wordTree "" "View", emptyParens],
      [wordTree " " "Drawable", wordTree " " "by", wordTree " " "canvas"]]
    d.kind ≠ .interface ∧
      d.supertypes.map TokenTree.text =
        [calledView, delegatedDrawable " canvas".toList].map Specifier.text ∧
      (classifier {} none d).superclass = some "View" ∧
      (classifier {} none d).interfaces = ["Drawable"] := by
  intro d
  have hkind : d.kind ≠ .interface := by decide
  have hwritten : d.supertypes.map TokenTree.text =
      [calledView, delegatedDrawable " canvas".toList].map Specifier.text := by decide +kernel
  obtain ⟨⟨hsuper, hinterfaces⟩, -⟩ := classifier_supertypes {} none hkind hwritten
  exact ⟨hkind, hwritten, hsuper, hinterfaces⟩

/-- In the class `Panel : Drawable by create()` no constructor is called, but the parenthesis in the
expression makes a superclass of the interface. -/
theorem classifier_delegated :
    let d := panel
      [[wordTree " " "Drawable", wordTree " " "by", wordTree " " "create", emptyParens]]
    let drawable := delegatedDrawable " create()".toList
    d.supertypes.map TokenTree.text = [drawable.text] ∧ drawable.isCall = false ∧
      (classifier {} none d).superclass = some "Drawable" ∧
      (classifier {} none d).interfaces = [] := by
  intro d drawable
  have hkind : d.kind ≠ .interface := by decide
  have hwritten : d.supertypes.map TokenTree.text = [drawable].map Specifier.text := by
    decide +kernel
  have hboth := supertypes_classifier {} none hkind hwritten
  exact ⟨hwritten, rfl, congrArg Prod.fst hboth, congrArg Prod.snd hboth⟩

end ClassGraph.Source.Kotlin
