import ClassGraph.Proofs.Source.Annotation
import ClassGraph.Proofs.Source.PropertyText

/-!
# Annotations in front of properties

The words of an annotation in front of a property are dropped where they begin with an `@`, and
count as modifiers where they do not. Before it comes to the words, though, the text has been cut:
an annotation with a target hides the property behind the colon of the target, and one that a line
break or the word `by` follows hides it behind the end of the line. `property?_annotated` says which
annotations leave the property as it is.
-/

namespace ClassGraph.Source.Kotlin

open Text TypeSyntax

/-- An annotation of a property. -/
structure AnnotationEntry where
  /-- What is annotated, where it is not the property. -/
  target : Option (List Char)
  /-- The dotted name. -/
  name : List Char
  /-- What stands between the parentheses of the arguments. -/
  arguments : Option (List Char)
  /-- A target is a word. -/
  target_plain : ∀ word ∈ target, ∀ c ∈ word, isNameChar c = true
  /-- There is a name. -/
  name_ne_nil : name ≠ []
  /-- Dots may stand in the name. -/
  name_plain : ∀ c ∈ name, isNameChar c = true ∨ c = '.'
  /-- The parentheses in the arguments close each other. -/
  balanced : ∀ inner ∈ arguments, Balanced inner

namespace AnnotationEntry

/-- The text of an argument list. -/
def argumentText (a : AnnotationEntry) : List Char :=
  match a.arguments with
  | none => []
  | some inner => '(' :: inner ++ [')']

/-- The text of an annotation. -/
def text (a : AnnotationEntry) : List Char :=
  match a.target with
  | none => '@' :: a.name ++ a.argumentText
  | some word => '@' :: word ++ ':' :: (a.name ++ a.argumentText)

/-- All brackets in the arguments close each other, and no keyword is a word of them. -/
structure Plain (a : AnnotationEntry) : Prop where
  /-- All brackets close each other. -/
  grouped : ∀ inner ∈ a.arguments, Grouped [] inner
  /-- No word is a keyword. -/
  words : ∀ word ∈ words a.text, isKeyword word = false

end AnnotationEntry

variable {a : AnnotationEntry} {w : Gap} {d s word : List Char} {p : Property}

/-- What is annotated hides what stands behind its colon. -/
theorem property?_of_target (hword : ∀ c ∈ word, isNameChar c = true) (s : List Char) :
    property? ('@' :: word ++ ':' :: s) = none := by
  have hplain : ∀ c ∈ '@' :: word, isSpace c = false := by
    rw [List.forall_mem_cons]
    exact ⟨by decide, fun c hc => not_isSpace_of_isNameChar (hword c hc)⟩
  have hgrouped : Grouped ['=', ':'] ('@' :: word) :=
    .plain (by decide) (by decide) (grouped_of_plain (fun c hc => .inl (hword c hc)) fun _ h => h)
  have hfront : Grouped ['='] ('@' :: word ++ [':']) :=
    (hgrouped.mono (by simp)).append (grouped_of_forall (forall_mem_of_all (by decide)))
  have hlast : Neutral ('@' :: word ++ [':']).getLast? := by
    rw [List.getLast?_concat]
    exact neutral_some (by decide)
  obtain ⟨head, value, -, -, hread⟩ := exists_declared?_append hfront hlast s
  have hcolon : ∀ c ∈ '@' :: word ++ [':'], isSpace c = false := by
    rw [List.forall_mem_append, List.forall_mem_singleton]
    exact ⟨hplain, by decide⟩
  obtain ⟨more, hmore⟩ := exists_headLine_word hcolon head
  have htext : '@' :: word ++ ':' :: s = '@' :: word ++ [':'] ++ s := by simp
  rw [htext, hread, hmore, List.append_assoc, List.singleton_append, declared?,
    cutTopLevel?_mark (hgrouped.mono (by simp)) (by decide) fun h => absurd h (by decide)]
  have hwords : plainWords ('@' :: word) = [] := by
    rw [plainWords, words_of_forall hplain (List.cons_ne_nil _ _)]
    rfl
  exact (congrArg (named? · _ _) hwords).trans rfl

/-- A plain annotation without a target is passed over, with the gap behind it. -/
theorem AnnotationEntry.passed (htarget : a.target = none) (ha : a.Plain) (w : Gap) :
    Passed (a.text ++ w.1) := by
  have hname : Grouped ['=', ':'] ('@' :: a.name) :=
    .plain (by decide) (by decide)
      (grouped_of_plain (fun c hc => (a.name_plain c hc).imp_right .inr) fun _ h => h)
  have harguments : Grouped ['=', ':'] a.argumentText := by
    rw [argumentText]
    cases hinner : a.arguments with
    | none => exact .nil
    | some inner => exact .enclose (by decide) (ha.grouped inner hinner)
  have hblank : Grouped ['=', ':'] w.1 :=
    grouped_of_plain (fun c hc => .inr (.inl (w.2.2 c hc))) fun _ h => h
  refine ⟨?_, ?_, ?_⟩
  · rw [text, htarget]
    exact (hname.append harguments).append hblank
  · rw [List.getLast?_append_of_ne_nil a.text w.2.1, List.getLast?_eq_some_getLast w.2.1]
    exact ⟨_, rfl, w.2.2 _ (List.getLast_mem w.2.1)⟩
  · rw [words_append_right _ w.2.2]
    exact ha.words

/-- What is found of a property with an annotation in front of it. With a target nothing is found,
and nothing where the line of the declaration ends in the annotation or the blanks behind it. Else
the property is found as it is, with the words of the annotation that begin with no `@` among its
modifiers. -/
theorem property?_annotated (a : AnnotationEntry) (w : Gap) (d : List Char) (p : Property)
    (hp : property? d = some p) (hd : ¬ "by ".toList <+: d) :
    (a.target.isSome = true → property? (a.text ++ w.1 ++ d) = none) ∧
      (a.target = none → a.Plain →
        (EndsLine (a.text ++ w.1) → property? (a.text ++ w.1 ++ d) = none) ∧
        (¬ EndsLine (a.text ++ w.1) → property? (a.text ++ w.1 ++ d) =
          some { p with modifiers := plainWords a.text ++ p.modifiers })) := by
  constructor
  · intro htarget
    obtain ⟨word, hword⟩ := Option.isSome_iff_exists.mp htarget
    have hread := property?_of_target (a.target_plain word hword)
      (a.name ++ a.argumentText ++ w.1 ++ d)
    rw [AnnotationEntry.text, hword]
    simpa only [List.append_assoc, List.cons_append] using hread
  · intro htarget ha
    have hpassed := AnnotationEntry.passed htarget ha w
    refine ⟨fun hends => hpassed.property?_eq_none hends d, fun hends => ?_⟩
    have hwords : plainWords (a.text ++ w.1) = plainWords a.text := by
      rw [plainWords, words_append_right _ w.2.2, plainWords]
    rw [hpassed.property?_append hends hd hp, hwords]

/-- An annotation with an argument. -/
def sizeEntry : AnnotationEntry where
  target := none
  name := "Size".toList
  arguments := some "max = 3".toList
  target_plain := by simp
  name_ne_nil := by decide
  name_plain := forall_mem_of_all (by decide)
  balanced := by
    rintro inner ⟨rfl⟩
    exact balanced_of_forall (forall_mem_of_all (by decide))

/-- An annotation without arguments, of a part of the property or of the whole. -/
def injection (part : Bool) : AnnotationEntry where
  target := if part then some "field".toList else none
  name := "Inject".toList
  arguments := none
  target_plain := by
    cases part with
    | false => simp
    | true =>
      rintro word ⟨rfl⟩
      exact forall_mem_of_all (by decide)
  name_ne_nil := by decide
  name_plain := forall_mem_of_all (by decide)
  balanced := by simp

/-- The annotation for sizes is plain. -/
theorem sizeEntry_plain : sizeEntry.Plain := by
  refine ⟨?_, by decide +kernel⟩
  rintro inner ⟨rfl⟩
  exact grouped_of_forall (forall_mem_of_all (by decide))

/-- The annotation for injections is plain. -/
theorem injection_plain (part : Bool) : (injection part).Plain :=
  ⟨by simp [injection], by cases part <;> decide +kernel⟩

/-- A berth. -/
def berth : List Char := "private val berth: Ship? = null".toList

/-- The property of a berth. -/
def berthProperty : Property where
  modifiers := ["private".toList]
  isMutable := false
  name := "berth".toList
  type := some "Ship?".toList
  value := some "null".toList

/-- The words of an argument list are modifiers of the property behind it, a line break behind an
annotation hides the property, and so does what is annotated. -/
theorem property?_annotated_berth :
    property? berth = some berthProperty ∧ sizeEntry.Plain ∧
      property? (sizeEntry.text ++ [' '] ++ berth) =
        some { berthProperty with modifiers := ["=".toList, "3)".toList, "private".toList] } ∧
      property? ((injection false).text ++ ['\n'] ++ berth) = none ∧
      property? ((injection true).text ++ [' '] ++ berth) = none := by
  have hberth : property? berth = some berthProperty := rfl
  have hby : ¬ "by ".toList <+: berth := by decide
  have hbreak : Blank ['\n'] := forall_mem_of_all (by decide)
  have hends : EndsLine ((injection false).text ++ ['\n']) := .inl (by decide)
  have hgoes : ¬ EndsLine (sizeEntry.text ++ [' ']) := by
    rw [EndsLine, not_or]
    exact ⟨by decide +kernel, by decide +kernel⟩
  have hsize := (property?_annotated sizeEntry ⟨[' '], by decide, blank_singleton⟩ berth _
    hberth hby).2 rfl sizeEntry_plain
  have hnext := (property?_annotated (injection false) ⟨['\n'], by decide, hbreak⟩ berth _
    hberth hby).2 rfl (injection_plain false)
  have htarget := (property?_annotated (injection true) ⟨[' '], by decide, blank_singleton⟩ berth _
    hberth hby).1 rfl
  refine ⟨hberth, sizeEntry_plain, ?_, hnext.1 hends, htarget⟩
  have hwords : plainWords sizeEntry.text = ["=".toList, "3)".toList] := by decide +kernel
  rw [hsize.2 hgoes, hwords]
  rfl

/-- A constructor parameter declares a property, and none when an annotation of its field stands in
front of it. -/
theorem property?_injected :
    (injection true).text ++ [' '] = "@field:Inject ".toList ∧
      (property? "val berth: Ship".toList).isSome = true ∧
      property? "@field:Inject val berth: Ship".toList = none ∧
      addConstructorProperty (typeScope {} []) { name := "Dock", kind := .plain }
        "val berth: Ship".toList =
          { name := "Dock", kind := .plain
            fields := [{ name := "berth", typeName := "Ship", visibility := .toAll }]
            relations := [{ kind := .association, target := "Ship", via := some "berth"
                            cardinality := some .one }] } ∧
      addConstructorProperty (typeScope {} []) { name := "Dock", kind := .plain }
        "@field:Inject val berth: Ship".toList = { name := "Dock", kind := .plain } :=
  ⟨by decide, by decide +kernel, rfl, by decide +kernel, by decide +kernel⟩

end ClassGraph.Source.Kotlin
