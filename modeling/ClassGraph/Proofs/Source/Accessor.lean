import ClassGraph.Proofs.Source.PropertySyntax

/-!
# Accessors of properties

A getter or setter behind a property is part of the property's text. Since the text is cut at its
first `=` before it is cut at its first line break, the expression of an accessor is taken for the
initial value of the property; and an accessor on the line of the type is taken for a part of the
type. `property?_accessor` says what is found, for every property with its type and every accessor
behind it. Where the expression is a new object of the type, the property comes to own it
(`addProperty_getter`).
-/

namespace ClassGraph.Source.Kotlin

open Text TypeSyntax

/-- The body of an accessor. -/
inductive AccessorBody where
  /-- An expression behind an equals sign. -/
  | expression (text : List Char) (first : text.head? ≠ some '=')
  /-- Statements between curly brackets. -/
  | block (inner : List Char) (grouped : Grouped [] inner)

/-- A getter or setter. -/
structure Accessor where
  /-- The modifiers in front of the keyword. -/
  modifiers : List (PlainWord × LineGap)
  /-- Whether it sets the property. -/
  isSetter : Bool
  /-- What stands between the parentheses. -/
  parameters : List Char
  /-- What stands between the parentheses and the body: blanks, and the type of the result. -/
  result : List Char
  /-- What the accessor does. -/
  body : AccessorBody
  /-- The brackets in the parameters close each other. -/
  parameters_grouped : Grouped [] parameters
  /-- The brackets in the result close each other, and the body does not begin in it. -/
  result_grouped : Grouped ['='] result
  /-- The equals sign of the body is no comparison. -/
  result_neutral : Neutral result.getLast?

namespace Accessor

/-- The keyword of an accessor. -/
def keyword (a : Accessor) : List Char := if a.isSetter then "set".toList else "get".toList

/-- The text of an accessor up to its body. -/
def head (a : Accessor) : List Char :=
  wordsText a.modifiers ++ (a.keyword ++ ('(' :: a.parameters ++ ')' :: a.result))

/-- The text of an accessor. -/
def text (a : Accessor) : List Char :=
  match a.body with
  | .expression e _ => a.head ++ '=' :: e
  | .block inner _ => a.head ++ ('{' :: inner ++ ['}'])

/-- What is taken for the initial value of the property. -/
def value (a : Accessor) : Option (List Char) :=
  match a.body with
  | .expression e _ => some (trim e)
  | .block _ _ => none

end Accessor

variable {s t w : List Char} {a : Accessor} {d : TypedProperty}

/-! ## Texts of accessors -/

namespace Accessor

/-- The keyword of an accessor consists of characters of names. -/
theorem keyword_plain (a : Accessor) : ∀ c ∈ a.keyword, isNameChar c = true := by
  rw [keyword]
  split_ifs <;> exact forall_mem_of_all (by decide)

/-- No mark of a value stands outside of the brackets in the head of an accessor. -/
theorem grouped_head (a : Accessor) : Grouped ['='] a.head := by
  have hwords : Grouped ['='] (wordsText a.modifiers) :=
    grouped_of_inLine (inLine_wordsText a.modifiers) (by simp)
  have hkeyword : Grouped ['='] a.keyword :=
    grouped_of_plain (fun c hc => .inl (a.keyword_plain c hc)) (by simp)
  exact hwords.append (hkeyword.append (.group (by decide) a.parameters_grouped a.result_grouped))

/-- Behind the head of an accessor no arrow and no comparison goes on. -/
theorem neutral_head (a : Accessor) : Neutral a.head.getLast? := by
  have hlast : a.head.getLast? = a.result.getLast?.or (some ')') := by
    rw [head, List.getLast?_append, List.getLast?_append, List.getLast?_append, List.getLast?_cons]
    cases a.result.getLast? <;> rfl
  have hneutral := a.result_neutral
  rw [hlast]
  cases hresult : a.result.getLast? with
  | none => exact neutral_some (by decide)
  | some c => rwa [hresult] at hneutral

/-- An accessor begins with a word. -/
theorem exists_head_cons (a : Accessor) : ∃ c more, a.head = c :: more ∧ isSpace c = false := by
  rw [head]
  cases a.modifiers with
  | nil =>
    rw [keyword]
    split_ifs
    · exact ⟨'s', _, rfl, rfl⟩
    · exact ⟨'g', _, rfl, rfl⟩
  | cons m ms =>
    obtain ⟨c, cs, hword⟩ := List.exists_cons_of_ne_nil m.1.nonempty
    rw [wordsText, hword]
    exact ⟨c, _, rfl, m.1.not_isSpace c (hword ▸ List.mem_cons_self)⟩

/-- The word is not the one that names another object. -/
theorem not_by_prefix (a : Accessor) (t : List Char) : ¬ "by ".toList <+: a.head ++ t := by
  rw [head]
  cases a.modifiers with
  | nil =>
    rw [keyword]
    split_ifs <;> exact fun h => absurd (List.cons_prefix_cons.mp h).1 (by decide)
  | cons m ms =>
    rintro ⟨u, hu⟩
    have hby : words ("by".toList ++ ([' '] ++ u)) = "by".toList :: words u :=
      words_word_gap (forall_mem_of_all (by decide)) (by decide) blank_singleton (by decide) u
    have hwords := congrArg words hu
    rw [wordsText, List.append_assoc, List.append_assoc m.1.text, List.append_assoc,
      List.append_assoc, words_word_gap m.1.not_isSpace m.1.nonempty m.2.2.2.1 m.2.2.1] at hwords
    have hword : "by".toList = m.1.text := (List.cons.inj (hby.symm.trans hwords)).1
    exact m.1.unreserved (hword ▸ by decide)

/-- The text of a property is cut at the equals sign of an accessor, if there is one. -/
theorem exists_declared?_append (a : Accessor) (hs : Grouped ['='] s) :
    ∃ t, property? (s ++ a.text) = declared? (headLine (s ++ (a.head ++ t))) a.value := by
  rw [text, value]
  cases a.body with
  | expression e first =>
    refine ⟨[], ?_⟩
    have hlast : (s ++ a.head).getLast? = a.head.getLast? := by
      obtain ⟨c, more, hhead, -⟩ := a.exists_head_cons
      exact List.getLast?_append_of_ne_nil s (by simp [hhead])
    have hcomparison : isComparison (s ++ a.head).getLast? e = false := by
      rw [hlast, a.neutral_head.isComparison]
      exact beq_false_of_ne first
    have hcut := cutTopLevel?_mark (hs.append a.grouped_head) (by decide) fun _ => hcomparison
    rw [List.append_nil, ← List.append_assoc, property?_of_cut hcut]
  | block inner grouped =>
    refine ⟨'{' :: inner ++ ['}'], property?_of_none ?_⟩
    exact cutTopLevel?_eq_none (hs.append (a.grouped_head.append (.enclose (by decide) grouped)))
      (by decide)

end Accessor

/-! ## Lines with accessors -/

/-- The text of a property with a type ends with a character that is no blank. -/
theorem TypedProperty.getLast?_text (d : TypedProperty) :
    ∃ c, d.text.getLast? = some c ∧ isSpace c = false := by
  obtain ⟨c, hlast⟩ : ∃ c, d.type.text.getLast? = some c :=
    ⟨_, List.getLast?_eq_some_getLast d.type.nonempty⟩
  have htrim : c ∈ (trim d.type.text).getLast? := d.type.trimmed.symm ▸ hlast
  refine ⟨c, ?_, not_isSpace_of_mem_getLast?_trim htrim⟩
  rw [text, List.getLast?_append, List.getLast?_cons, List.getLast?_append, hlast]
  rfl

/-- On the next line an accessor makes no difference to the type. -/
theorem TypedProperty.exists_headLine_break (d : TypedProperty) (hw : Blank w) (hbreak : '\n' ∈ w)
    (t : List Char) : ∃ w', Blank w' ∧ headLine (d.text ++ w ++ t) = d.text ++ w' := by
  obtain ⟨g, g', rfl, hg⟩ := List.eq_append_cons_of_mem hbreak
  have hblank : Blank g := fun c hc => hw c (List.mem_append_left _ hc)
  have hends := d.not_endsLine ⟨g, hblank, hg⟩
  rw [EndsLine, not_or] at hends
  obtain ⟨c, hlast, hc⟩ := d.getLast?_text
  have hreturn : d.text.getLast? ≠ some '\r' := by
    rw [hlast]
    rintro ⟨rfl⟩
    exact absurd hc (by decide)
  have hline : '\n' ∉ d.text := fun hmem => hends.1 (List.mem_append_left _ hmem)
  have hbefore : beforeText byMark (d.text ++ g ++ '\n' :: (g' ++ t)) =
      d.text ++ g ++ '\n' :: beforeText byMark (g' ++ t) :=
    beforeText_append_cons hends.2 (by decide) _
  obtain ⟨w', -, hg'⟩ := exists_firstLine_break hg (beforeText byMark (g' ++ t))
  refine ⟨_, fun c hc => hblank c (hg' ▸ List.mem_append_left w' hc), ?_⟩
  have htext : d.text ++ (g ++ '\n' :: g') ++ t = d.text ++ g ++ '\n' :: (g' ++ t) := by simp
  rw [headLine, htext, hbefore, List.append_assoc, firstLine_append_of_last hline hreturn]

/-- What is found of a property with its type and an accessor behind it. The expression of the
accessor is taken for the initial value. On the next line the accessor makes no difference to the
type; on the same line the type goes on with the accessor. -/
theorem property?_accessor (d : TypedProperty) (w : Gap) (a : Accessor) :
    property? d.text = some (d.front.property (some d.type.text) none) ∧
      ∃ type,
        property? (d.text ++ w.1 ++ a.text) = some (d.front.property (some type) a.value) ∧
        ('\n' ∈ w.1 → type = d.type.text) ∧
        ('\n' ∉ w.1 → ∃ c more, a.text.head? = some c ∧
          type = d.type.text ++ w.1 ++ c :: more) := by
  constructor
  · have hline : headLine (d.text ++ []) = d.text ++ [] :=
      headLine_eq_self (d.not_endsLine noBlanks)
    have hdeclared := d.declared?_blank blank_nil none
    rw [List.append_nil] at hline hdeclared
    rw [property?_of_none (cutTopLevel?_eq_none d.grouped (by decide)), hline, hdeclared]
  have hblank : Grouped ['='] w.1 :=
    grouped_of_plain (fun c hc => .inr (.inl (w.2.2 c hc))) (by simp)
  have hfront : Grouped ['='] (d.text ++ w.1) := d.grouped.append hblank
  obtain ⟨t, hread⟩ := a.exists_declared?_append hfront
  by_cases hbreak : '\n' ∈ w.1
  · obtain ⟨w', hw', hline⟩ := d.exists_headLine_break w.2.2 hbreak (a.head ++ t)
    rw [hline, d.declared?_blank hw'] at hread
    exact ⟨d.type.text, hread, fun _ => rfl, fun h => absurd hbreak h⟩
  · obtain ⟨c, rest, hhead, hc⟩ := a.exists_head_cons
    have hword : ∀ d ∈ [c], isSpace d = false := by simpa using hc
    obtain ⟨more, hmore⟩ := exists_headLine_word hword (rest ++ t)
    have haccessor : headLine (a.head ++ t) = c :: more := by
      rw [hhead, List.cons_append]
      exact hmore
    have hlast : ∀ c ∈ (d.text ++ w.1).getLast?, isSpace c = true := by
      rw [List.getLast?_append_of_ne_nil d.text w.2.1]
      exact fun c hc => w.2.2 c (List.mem_of_getLast? hc)
    have hline := headLine_append (d.not_endsLine ⟨w.1, w.2.2, hbreak⟩) hlast (a.not_by_prefix t)
      (by rw [haccessor]; exact List.cons_ne_nil c more)
    have hdeclared := d.declared?_append (w.1 ++ c :: more) a.value
    rw [← List.append_assoc, ← List.append_assoc, d.type.trim_append hc, Option.filter_some,
      if_pos (by simp)] at hdeclared
    rw [hline, haccessor, hdeclared] at hread
    refine ⟨_, hread, fun h => absurd h hbreak, fun _ => ⟨c, _, ?_, rfl⟩⟩
    rw [Accessor.text]
    cases a.body <;> rw [hhead] <;> rfl

/-- The engine of a ship. -/
def engine : TypedProperty where
  front := {
    modifiers := []
    isMutable := false
    gap := oneBlank
    name := ⟨"engine".toList, by decide, forall_mem_of_all (by decide), by decide⟩ }
  before := noBlanks
  after := lineBlank
  type := {
    text := "Engine".toList
    grouped := grouped_of_forall (forall_mem_of_all (by decide))
    nonempty := by decide
    trimmed := trim_of_forall (forall_mem_of_all (by decide))
    line := by decide
    unheld := by decide +kernel }

/-- A getter that makes a new engine each time. -/
def engineGetter : Accessor where
  modifiers := []
  isSetter := false
  parameters := []
  result := oneBlank.1
  body := .expression " Engine()".toList (by decide)
  parameters_grouped := .nil
  result_grouped := grouped_of_forall (forall_mem_of_all (by decide))
  result_neutral := neutral_of_isSpace rfl

/-- On the next line the getter gives the property its value only, on the same line it is taken for
a part of the type, too. -/
theorem property?_accessor_engine :
    property? (engine.text ++ "\n    ".toList ++ engineGetter.text) =
        some (engine.front.property (some "Engine".toList) (some "Engine()".toList)) ∧
      ∃ more, property? (engine.text ++ " ".toList ++ engineGetter.text) =
        some (engine.front.property (some ("Engine g".toList ++ more))
          (some "Engine()".toList)) := by
  have hvalue : engineGetter.value = some "Engine()".toList := by decide +kernel
  obtain ⟨type, hread, htype, -⟩ := (property?_accessor engine
    ⟨"\n    ".toList, by decide, forall_mem_of_all (by decide)⟩ engineGetter).2
  obtain ⟨type', hread', -, htype'⟩ :=
    (property?_accessor engine ⟨" ".toList, by decide, blank_singleton⟩ engineGetter).2
  have hengine : type = "Engine".toList := htype (by decide)
  obtain ⟨c, more, hfirst, hmore⟩ := htype' (by decide)
  obtain rfl : 'g' = c := Option.some.inj hfirst
  rw [hvalue, hengine] at hread
  rw [hvalue, hmore] at hread'
  exact ⟨hread, more, hread'⟩

/-- A property that computes a new object each time has the new object for its initial value, so
that the class is found to own what it only refers to. -/
theorem addProperty_getter :
    let scope := typeScope {} []
    let bare : Classifier := { name := "Ship", kind := .plain }
    let fields : List Field :=
      [{ name := "engine", typeName := "Engine", visibility := .toAll }]
    let text := engine.text ++ "\n    ".toList ++ engineGetter.text
    text = "val engine: Engine\n    get() = Engine()".toList ∧
      property? text =
        some (engine.front.property (some "Engine".toList) (some "Engine()".toList)) ∧
      addProperty scope bare engine.text =
        { bare with
          fields
          relations := [{ kind := .association, target := "Engine", via := some "engine"
                          cardinality := some .one }] } ∧
      addProperty scope bare text =
        { bare with
          fields
          relations := [{ kind := .composition, target := "Engine", via := some "engine" }] } :=
  ⟨by decide +kernel, rfl, by decide +kernel, by decide +kernel⟩

end ClassGraph.Source.Kotlin
