import ClassGraph.Proofs.Source.PropertyText

/-!
# The syntax of properties

A property on one line: modifiers, its keyword and its name (`PropertyFront`), and behind a colon
its type (`TypedProperty`), with all the blanks of its layout. The words that a reading takes for
more than names are excluded as names. The line of such a text declares the property
(`TypedProperty.declared?_append`), whatever blanks stand behind it, and so does a front without a
type (`PropertyFront.declared?_append`).
-/

namespace ClassGraph.Source.Kotlin

open Text TypeSyntax

/-- The words that a reading of properties takes for more than names. -/
def reserved : List (List Char) := ["val".toList, "var".toList, "by".toList]

/-- A modifier or the name of a property. -/
structure PlainWord where
  /-- The characters of the word. -/
  text : List Char
  /-- There is at least one. -/
  nonempty : text ≠ []
  /-- They are letters, numbers and underscores. -/
  plain : ∀ c ∈ text, isNameChar c = true
  /-- The word is not reserved. -/
  unreserved : text ∉ reserved

/-- Blanks on one line, if any. -/
abbrev LineBlanks := { w : List Char // Blank w ∧ '\n' ∉ w }

/-- At least one blank, on one line. -/
abbrev LineGap := { w : List Char // w ≠ [] ∧ Blank w ∧ '\n' ∉ w }

/-- No blanks. -/
def noBlanks : LineBlanks := ⟨[], blank_nil, List.not_mem_nil⟩

/-- One blank. -/
def oneBlank : LineGap := ⟨[' '], by decide, blank_singleton, by decide⟩

/-- One blank, where none is needed. -/
def lineBlank : LineBlanks := ⟨oneBlank.1, oneBlank.2.2⟩

/-- Words, each with the blanks behind it. -/
def wordsText : List (PlainWord × LineGap) → List Char
  | [] => []
  | (word, gap) :: more => word.text ++ gap.1 ++ wordsText more

/-- A property up to its name. -/
structure PropertyFront where
  /-- The modifiers in front of the keyword. -/
  modifiers : List (PlainWord × LineGap)
  /-- Whether the property may be assigned again. -/
  isMutable : Bool
  /-- The blanks behind the keyword. -/
  gap : LineGap
  /-- The name. -/
  name : PlainWord

namespace PropertyFront

/-- The keyword of a property. -/
def keyword (f : PropertyFront) : List Char := if f.isMutable then "var".toList else "val".toList

/-- The text of a property up to its name. -/
def text (f : PropertyFront) : List Char :=
  wordsText f.modifiers ++ (f.keyword ++ f.gap.1 ++ f.name.text)

/-- The property with a type and a value. -/
def property (f : PropertyFront) (type value : Option (List Char)) : Property where
  modifiers := f.modifiers.map (·.1.text)
  isMutable := f.isMutable
  name := f.name.text
  type := type
  value := value

end PropertyFront

/-- The text of a type on one line. -/
structure TypeText where
  /-- The characters of the type. -/
  text : List Char
  /-- Brackets close each other, and no value begins outside of them. -/
  grouped : Grouped ['='] text
  /-- There is a type. -/
  nonempty : text ≠ []
  /-- No blanks stand around it. -/
  trimmed : trim text = text
  /-- It does not end the line. -/
  line : '\n' ∉ text
  /-- No word of it names another object. -/
  unheld : "by".toList ∉ words text

/-- A property with its type. -/
structure TypedProperty where
  /-- The property up to its name. -/
  front : PropertyFront
  /-- The blanks in front of the colon. -/
  before : LineBlanks
  /-- The blanks behind the colon. -/
  after : LineBlanks
  /-- The type. -/
  type : TypeText

/-- The text of a property with its type. -/
def TypedProperty.text (d : TypedProperty) : List Char :=
  d.front.text ++ d.before.1 ++ ':' :: (d.after.1 ++ d.type.text)

variable {s w : List Char} {word : PlainWord} {f : PropertyFront} {c : Char}

/-! ## Characters -/

/-- The character stands in names or between them, and does not end a line. -/
def InLine (c : Char) : Prop := (isNameChar c = true ∨ isSpace c = true) ∧ c ≠ '\n'

/-- A character of names stands in a line. -/
theorem inLine_of_isNameChar (hc : isNameChar c = true) : InLine c := by
  refine ⟨.inl hc, ?_⟩
  rintro rfl
  exact absurd hc (by decide)

/-- Blanks without line breaks stand in a line. -/
theorem inLine_of_blank (hw : Blank w) (hline : '\n' ∉ w) : ∀ c ∈ w, InLine c :=
  fun c hc => ⟨.inr (hw c hc), fun h => hline (h ▸ hc)⟩

/-- A word stands in a line. -/
theorem PlainWord.inLine (word : PlainWord) : ∀ c ∈ word.text, InLine c :=
  fun c hc => inLine_of_isNameChar (word.plain c hc)

/-- Words with gaps on one line stand in a line. -/
theorem inLine_wordsText (ms : List (PlainWord × LineGap)) : ∀ c ∈ wordsText ms, InLine c := by
  induction ms with
  | nil => simp [wordsText]
  | cons m ms ih =>
    rw [wordsText, List.forall_mem_append, List.forall_mem_append]
    exact ⟨⟨m.1.inLine, inLine_of_blank m.2.2.2.1 m.2.2.2.2⟩, ih⟩

/-- The keyword of a property consists of characters of names. -/
theorem PropertyFront.keyword_plain (f : PropertyFront) :
    ∀ c ∈ f.keyword, isNameChar c = true := by
  rw [keyword]
  split_ifs <;> exact forall_mem_of_all (by decide)

/-- The front of a property stands in a line. -/
theorem PropertyFront.inLine (f : PropertyFront) : ∀ c ∈ f.text, InLine c := by
  rw [text, List.forall_mem_append, List.forall_mem_append, List.forall_mem_append]
  exact ⟨inLine_wordsText f.modifiers,
    ⟨fun c hc => inLine_of_isNameChar (f.keyword_plain c hc),
      inLine_of_blank f.gap.2.2.1 f.gap.2.2.2⟩, f.name.inLine⟩

/-- No mark stands outside of brackets in what stands in a line. -/
theorem grouped_of_inLine {marks : List Char} (hs : ∀ c ∈ s, InLine c)
    (hmarks : ∀ c ∈ marks, c ∈ ['=', ':']) : Grouped marks s :=
  grouped_of_plain (fun c hc => (hs c hc).1.imp_right .inl) hmarks

/-- Behind what stands in a line no arrow and no comparison goes on. -/
theorem neutral_of_inLine (hs : ∀ c ∈ s, InLine c) : Neutral s.getLast? := by
  cases hlast : s.getLast? with
  | none => exact neutral_none
  | some c =>
    rcases (hs c (List.mem_of_getLast? hlast)).1 with hname | hspace
    · exact neutral_of_isNameChar hname
    · exact neutral_of_isSpace hspace

/-- What stands in a line holds no line break. -/
theorem notMem_of_inLine (hs : ∀ c ∈ s, InLine c) : '\n' ∉ s := fun hmem => (hs _ hmem).2 rfl

/-! ## Words -/

/-- No blank stands in a word. -/
theorem PlainWord.not_isSpace (word : PlainWord) : ∀ c ∈ word.text, isSpace c = false :=
  fun c hc => not_isSpace_of_isNameChar (word.plain c hc)

/-- The words in front of a text are its first words. -/
theorem words_wordsText (ms : List (PlainWord × LineGap)) (t : List Char) :
    words (wordsText ms ++ t) = ms.map (·.1.text) ++ words t := by
  induction ms with
  | nil => rfl
  | cons m ms ih =>
    rw [wordsText, List.append_assoc, List.append_assoc,
      words_word_gap m.1.not_isSpace m.1.nonempty m.2.2.2.1 m.2.2.1, ih, List.map_cons,
      List.cons_append]

/-- The words of the front of a property are its modifiers, its keyword and its name. -/
theorem PropertyFront.words (f : PropertyFront) (hw : Blank w) :
    words (f.text ++ w) = f.modifiers.map (·.1.text) ++ [f.keyword, f.name.text] := by
  have hkeyword : ∀ c ∈ f.keyword, isSpace c = false := fun c hc =>
    not_isSpace_of_isNameChar (f.keyword_plain c hc)
  have hne : f.keyword ≠ [] := by
    rw [keyword]
    split_ifs <;> decide
  rw [words_append_right _ hw, text, words_wordsText, List.append_assoc f.keyword,
    words_word_gap hkeyword hne f.gap.2.2.1 f.gap.2.1,
    words_of_forall f.name.not_isSpace f.name.nonempty]

/-- A plain word is no keyword of properties. -/
theorem PlainWord.isKeyword (word : PlainWord) : isKeyword word.text = false := by
  have hword := word.unreserved
  simp only [reserved, List.mem_cons, List.not_mem_nil, or_false, not_or] at hword
  rw [Kotlin.isKeyword, Bool.or_eq_false_iff]
  exact ⟨beq_false_of_ne hword.1, beq_false_of_ne hword.2.1⟩

/-- A line goes on over a text without the word for another object. -/
theorem not_endsLine (hline : '\n' ∉ s) (hby : "by".toList ∉ Text.words s) : ¬ EndsLine s := by
  rw [EndsLine, not_or]
  have hword : ∀ c ∈ "by".toList, isSpace c = false := forall_mem_of_all (by decide)
  have hblank : isSpace ' ' = true := rfl
  exact ⟨hline, fun hmark => hby (mem_words_between hword (by decide) hblank hblank hmark)⟩

/-- No word of the front of a property is dropped. -/
theorem PropertyFront.plainWords (f : PropertyFront) (hw : Blank w) :
    plainWords (f.text ++ w) = f.modifiers.map (·.1.text) ++ [f.keyword, f.name.text] := by
  have hat {s : List Char} (hs : ∀ c ∈ s, isNameChar c = true) : s.head? ≠ some '@' := fun h =>
    absurd (hs '@' (List.mem_of_mem_head? h)) (by decide)
  rw [Kotlin.plainWords, f.words hw, List.filter_eq_self]
  simp only [List.forall_mem_append, List.forall_mem_map, List.forall_mem_cons,
    decide_eq_true_eq]
  exact ⟨fun m _ => hat m.1.plain, hat f.keyword_plain, hat f.name.plain, by simp⟩

/-- The front of a property names the property. -/
theorem PropertyFront.named? (f : PropertyFront) (hw : Blank w) (type value : Option (List Char)) :
    named? (Kotlin.plainWords (f.text ++ w)) type value = some (f.property type value) := by
  have hmodifiers : ∀ word ∈ f.modifiers.map (·.1.text), Kotlin.isKeyword word = false := by
    rw [List.forall_mem_map]
    exact fun m _ => m.1.isKeyword
  have hdot : ¬ f.name.text.contains '.' = true := fun hmem =>
    absurd (f.name.plain '.' (List.contains_iff_mem.mp hmem)) (by decide)
  have hname : Kotlin.named? [f.keyword, f.name.text] type value =
      some { modifiers := [], isMutable := f.isMutable, name := f.name.text, type, value } := by
    rw [Kotlin.named?, keyword]
    cases f.isMutable <;> exact if_neg hdot
  rw [f.plainWords hw, named?_append hmodifiers, hname, Option.map_some, List.append_nil]
  rfl

/-! ## Lines -/

/-- The word for a delegation does not stand in the front of a property. -/
theorem PropertyFront.unheld (f : PropertyFront) (hw : Blank w) :
    "by".toList ∉ Text.words (f.text ++ w) := by
  have hkeyword : "by".toList ≠ f.keyword := by
    rw [keyword]
    split_ifs <;> decide
  have hword (word : PlainWord) : "by".toList ≠ word.text := fun h =>
    word.unreserved (h ▸ by decide)
  rw [f.words hw, List.mem_append, List.mem_map]
  rintro (⟨m, -, hm⟩ | hmem)
  · exact hword m.1 hm.symm
  · simp only [List.mem_cons, List.not_mem_nil, or_false] at hmem
    exact hmem.elim hkeyword (hword f.name)

/-- The front of a property with blanks on its line stands in a line. -/
theorem PropertyFront.inLine_append (f : PropertyFront) (w : LineBlanks) :
    ∀ c ∈ f.text ++ w.1, InLine c :=
  List.forall_mem_append.mpr ⟨f.inLine, inLine_of_blank w.2.1 w.2.2⟩

/-- A property without a type is declared by its line. -/
theorem PropertyFront.declared?_append (f : PropertyFront) (w : LineBlanks)
    (value : Option (List Char)) :
    headLine (f.text ++ w.1) = f.text ++ w.1 ∧
      declared? (f.text ++ w.1) value = some (f.property none value) := by
  have hline := f.inLine_append w
  refine ⟨headLine_eq_self (not_endsLine (notMem_of_inLine hline) (f.unheld w.2.1)), ?_⟩
  have hgrouped : Grouped [':'] (f.text ++ w.1) := grouped_of_inLine hline (by simp)
  rw [declared?, cutTopLevel?_eq_none hgrouped (by decide)]
  exact f.named? w.2.1 none value

/-- A type stays in front of what stands behind it. -/
theorem TypeText.trim_append (T : TypeText) (hc : isSpace c = false) (s t : List Char) :
    trim (T.text ++ s ++ c :: t) = T.text ++ s ++ c :: trimEnd t := by
  have hne : ¬ Blank T.text := by
    rw [← trim_eq_nil_iff, T.trimmed]
    exact T.nonempty
  rw [List.append_assoc, trim, trimStart_append_right hne, trimStart_eq_self T.trimmed,
    ← List.append_assoc]
  exact dropEndWhile_append_cons hc _ t

namespace TypedProperty

/-- What stands behind the colon is the type, with all that follows it on the line. -/
theorem declared?_append (d : TypedProperty) (s : List Char) (value : Option (List Char)) :
    declared? (d.text ++ s) value =
      some (d.front.property ((some (trim (d.type.text ++ s))).filter (· ≠ [])) value) := by
  have hgrouped : Grouped [':'] (d.front.text ++ d.before.1) :=
    grouped_of_inLine (d.front.inLine_append d.before) (by simp)
  have htext : d.text ++ s =
      d.front.text ++ d.before.1 ++ ':' :: (d.after.1 ++ (d.type.text ++ s)) := by
    simp [text]
  have hcut := cutTopLevel?_mark (t := d.after.1 ++ (d.type.text ++ s)) hgrouped (by decide)
    fun h => absurd h (by decide)
  rw [declared?, htext, hcut]
  exact (d.front.named? d.before.2.1 _ _).trans (by rw [trim_append_left d.after.2.1])

/-- A property with a type is declared by its text. -/
theorem declared?_blank (d : TypedProperty) (hw : Blank w) (value : Option (List Char)) :
    declared? (d.text ++ w) value = some (d.front.property (some d.type.text) value) := by
  have hne : decide (d.type.text ≠ []) = true := by simp [d.type.nonempty]
  rw [d.declared?_append, trim_append_right _ hw, d.type.trimmed, Option.filter_some, if_pos hne]

/-- No mark of a value stands outside of the brackets in a property with a type. -/
theorem grouped (d : TypedProperty) : Grouped ['='] d.text := by
  have hfront : Grouped ['='] (d.front.text ++ d.before.1) :=
    grouped_of_inLine (d.front.inLine_append d.before) (by simp)
  have hafter : Grouped ['='] d.after.1 :=
    grouped_of_inLine (inLine_of_blank d.after.2.1 d.after.2.2) (by simp)
  exact hfront.append (.plain (by decide) (by decide) (hafter.append d.type.grouped))

/-- The line goes on behind the type. -/
theorem not_endsLine (d : TypedProperty) (w : LineBlanks) : ¬ EndsLine (d.text ++ w.1) := by
  have hfront := notMem_of_inLine (d.front.inLine_append d.before)
  have htext : d.text ++ w.1 =
      d.front.text ++ d.before.1 ++ ':' :: (d.after.1 ++ d.type.text ++ w.1) := by
    simp [text]
  have hbehind : Text.words (d.after.1 ++ d.type.text ++ w.1) = Text.words d.type.text := by
    rw [words_append_right _ w.2.1, words_append_left d.after.2.1]
  have hline : '\n' ∉ d.after.1 ++ d.type.text ++ w.1 := by
    simp only [List.mem_append, not_or]
    exact ⟨⟨d.after.2.2, d.type.line⟩, w.2.2⟩
  have hby := Kotlin.not_endsLine hfront (d.front.unheld d.before.2.1)
  have hby' := Kotlin.not_endsLine hline (hbehind ▸ d.type.unheld)
  rw [EndsLine, not_or] at hby hby' ⊢
  rw [htext]
  refine ⟨?_, fun hmark => ?_⟩
  · rw [List.mem_append, List.mem_cons, not_or, not_or]
    exact ⟨hfront, by decide, hline⟩
  · exact (infix_append_cons hmark (by decide)).elim hby.2 hby'.2

end TypedProperty

end ClassGraph.Source.Kotlin
