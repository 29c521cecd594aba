import ClassGraph.Proofs.Source.TypeSyntax

/-!
# Reading types

A type text is read without a parser: what is written around a type is taken off its two ends, and
brackets are looked for from the first and from the last character. `resolve_written` shows that
this reads every text of the syntax of types as its type.

The proof follows the text from the outside to the inside. The marks, question marks and parentheses
that are taken off leave the text of the type without them (`core_of_opens`, `core_question`,
`core_mark`). What is left says by its end whether it is an array, and else by its name what it is
(`targetOf_of_name`). Commas separate arguments where they should, since the arguments are nested
(`Spells.inert`).
-/

namespace ClassGraph.TypeSyntax

open Text TypeRef

variable {scope : TypeScope} {S : Spacing} {e : TypeExpr} {a : TypeArgument}
  {as : List TypeArgument} {n : TypeName} {qs : List Identifier} {i : Identifier}
  {w s t inner : List Char} {c : Char} {name : String} {held : Option (List Char)}

/-! ## What is taken off a type -/

/-- Without the mark in front of it, a text is trimmed at its start. -/
theorem withoutMark_append (mark : String) (s : List Char) :
    withoutMark (mark.toList ++ s) mark = trimStart s := by
  rw [withoutMark, List.isPrefixOf?_eq_some_iff_append_eq.mpr rfl]

/-- A name in front of a type is no mark of variance. -/
theorem Opens.withoutMark (h : Opens s) {mark : String} (hmark : mark ∈ variances) :
    withoutMark (trim s) mark = trim s := by
  cases hrest : mark.toList.isPrefixOf? (trim s) with
  | none => rw [TypeRef.withoutMark, hrest]
  | some r =>
    exfalso
    obtain ⟨w, -, hstart⟩ := Text.exists_trimStart s
    obtain ⟨c, rest, hfirst, hletter⟩ := h.exists_trimStart
    obtain ⟨i, rest', hword, hstops⟩ := h
    have htext : trimStart s = mark.toList ++ (r ++ w) := by
      rw [hstart, ← append_of_isPrefixOf? hrest, List.append_assoc]
    have hname : (trimStart s).takeWhile isNameChar = i.text := by
      rw [hword, takeWhile_of_stops i.isNameChar_of_mem hstops]
    rw [htext] at hname hfirst
    have hquestion : ¬ (isLetter '?' = true ∨ '?' = '_') := by decide
    simp only [variances, List.mem_cons, List.not_mem_nil, or_false] at hmark
    -- The first two marks begin with no letter, the other two are a whole word, which no name is.
    rcases hmark with rfl | rfl | rfl | rfl
    · obtain rfl : '?' = c := (List.cons.inj hfirst).1
      exact hquestion hletter
    · obtain rfl : '?' = c := (List.cons.inj hfirst).1
      exact hquestion hletter
    · refine i.unmarked (hname ▸ ?_)
      exact List.mem_cons_of_mem _ List.mem_cons_self
    · refine i.unmarked (hname ▸ ?_)
      exact List.mem_cons_self

/-- A text that begins with a name has no mark of variance. -/
theorem Opens.withoutVariance (h : Opens s) : withoutVariance (trim s) = trim s := by
  simp only [TypeRef.withoutVariance, variances, List.foldl_cons, List.foldl_nil]
  rw [h.withoutMark (by decide), h.withoutMark (by decide), h.withoutMark (by decide),
    h.withoutMark (by decide)]

/-- A mark of variance in front of a type is taken off. -/
theorem Opens.withoutVariance_append (h : Opens s) {mark : String} (hmark : mark ∈ variances)
    (ht : trimStart t = trim s) : TypeRef.withoutVariance (mark.toList ++ t) = trim s := by
  simp only [variances, List.mem_cons, List.not_mem_nil, or_false] at hmark
  simp only [TypeRef.withoutVariance, variances, List.foldl_cons, List.foldl_nil]
  -- The marks before it in the list do not fit this one, those after it do not fit the type.
  rcases hmark with rfl | rfl | rfl | rfl
  · rw [withoutMark_append, ht, h.withoutMark (by decide), h.withoutMark (by decide),
      h.withoutMark (by decide)]
  · have hfirst : TypeRef.withoutMark ("? super ".toList ++ t) "? extends " =
        "? super ".toList ++ t := rfl
    rw [hfirst, withoutMark_append, ht, h.withoutMark (by decide), h.withoutMark (by decide)]
  · have hfirst : TypeRef.withoutMark ("out ".toList ++ t) "? extends " = "out ".toList ++ t := rfl
    have hsecond : TypeRef.withoutMark ("out ".toList ++ t) "? super " = "out ".toList ++ t := rfl
    rw [hfirst, hsecond, withoutMark_append, ht, h.withoutMark (by decide)]
  · have hfirst : TypeRef.withoutMark ("in ".toList ++ t) "? extends " = "in ".toList ++ t := rfl
    have hsecond : TypeRef.withoutMark ("in ".toList ++ t) "? super " = "in ".toList ++ t := rfl
    have hthird : TypeRef.withoutMark ("in ".toList ++ t) "out " = "in ".toList ++ t := rfl
    rw [hfirst, hsecond, hthird, withoutMark_append, ht]

/-- Texts that are the same when trimmed have the same core. -/
theorem core_congr (h : trim s = trim t) : core s = core t := by rw [core, core, h]

/-- There are no parentheses around a text that begins with a name. -/
theorem Opens.withoutParentheses (h : Opens s) : withoutParentheses (trim s) = trim s := by
  cases hrest : "(".toList.isPrefixOf? (trim s) with
  | none => rw [TypeRef.withoutParentheses, hrest]
  | some r =>
    obtain ⟨c, rest, hfirst, hletter⟩ := h.exists_trim
    rw [← append_of_isPrefixOf? hrest] at hfirst
    obtain rfl : '(' = c := (List.cons.inj hfirst).1
    exact absurd hletter (by decide)

/-- A type without a question mark stays, from its first character to its last. -/
theorem core_of_opens (h : Opens s) (hends : Ends s c) (hc : c ≠ '?') : core s = trim s := by
  have hkeep : dropEndWhile (· == '?') (trim s) = trim s := by
    refine dropEndWhile_eq_self fun d hd => ?_
    rw [hends.getLast?_trim] at hd
    obtain rfl := Option.some.inj hd
    exact beq_eq_false_iff_ne.mpr hc
  rw [core, h.withoutVariance, hkeep, trim_trim, h.withoutParentheses, trim_trim]

/-- One question mark is taken off, and the blanks in front of it. -/
theorem core_question (h : Opens s) (hends : Ends s c) (hc : c ≠ '?') :
    core (s ++ ['?']) = trim s := by
  have hquestion : Opens (s ++ ['?']) := h.append_right (stops_cons (by decide) _)
  have htrim : trim (s ++ ['?']) = trimStart s ++ ['?'] := trim_append h.not_blank rfl rfl
  have hdrop : dropEndWhile (· == '?') (trimStart s ++ ['?']) = trimStart s := by
    rw [dropEndWhile_append (by simp)]
    refine dropEndWhile_eq_self fun d hd => beq_eq_false_iff_ne.mpr ?_
    rintro rfl
    rcases hends.of_mem_getLast? hd with rfl | hspace
    · exact hc rfl
    · cases hspace
  rw [core, hquestion.withoutVariance, htrim, hdrop, trim_trimStart, h.withoutParentheses,
    trim_trim]

/-- A mark of variance is taken off, and the blanks behind it. -/
theorem core_mark {mark : String} (hmark : mark ∈ variances) (h : Opens s) (hends : Ends s c) :
    core (mark.toList ++ s) = core s := by
  obtain ⟨w, w', hw, hw', htext⟩ := exists_trim s
  have hc : isSpace c = false := hends.1
  -- Trimming does not reach the blanks between the mark and the type.
  have htrim : trim (mark.toList ++ s) = mark.toList ++ (w ++ trim s) := by
    have hpad : mark.toList ++ s = (mark.toList ++ w) ++ trim s ++ w' := by
      conv_lhs => rw [htext]
      simp only [List.append_assoc]
    have hstart : ¬ Blank (mark.toList ++ w) ∧
        trimStart (mark.toList ++ w) = mark.toList ++ w := by
      simp only [variances, List.mem_cons, List.not_mem_nil, or_false] at hmark
      rcases hmark with rfl | rfl | rfl | rfl
      all_goals exact
        ⟨fun hblank => absurd (hblank _ List.mem_cons_self) (by decide), trimStart_cons rfl _⟩
    rw [hpad, trim_append_right _ hw', trim_append hstart.1 hends.getLast?_trim hc, hstart.2,
      List.append_assoc]
  have hbehind : trimStart (w ++ trim s) = trim s := by
    rw [trimStart_append_left hw, trimStart_trim]
  rw [core, core, htrim, h.withoutVariance_append hmark hbehind, h.withoutVariance]

/-! ## Following a type -/

/-- Texts with the same core have the same shape. -/
theorem shapeOf_congr {settings : Extraction} (h : core s = core t) :
    shapeOf settings s = shapeOf settings t := by
  rw [shapeOf, shapeOf, h]

/-- A text that says nothing refers to nothing. -/
theorem targetOf_of_nothing (h : shapeOf scope.settings s = .nothing) :
    targetOf scope s = (none, false) := by
  rw [targetOf, follow]
  split <;> simp_all

/-- A text that is a name refers to the type that is declared under it. -/
theorem targetOf_of_named (h : shapeOf scope.settings s = .named name) :
    targetOf scope s = (declaredType scope name, false) := by
  rw [targetOf, follow]
  split <;> simp_all

/-- A container refers to what it holds refers to. -/
theorem targetOf_of_container (h : shapeOf scope.settings s = .container held) :
    targetOf scope s = (held.bind fun x => (targetOf scope x).1, true) := by
  cases held <;>
    rw [targetOf, follow] <;>
    split <;> simp_all [targetOf]

/-- A text refers to what its core refers to. -/
theorem targetOf_congr (h : core s = core t) : targetOf scope s = targetOf scope t := by
  have hshape : shapeOf scope.settings s = shapeOf scope.settings t := shapeOf_congr h
  cases ht : shapeOf scope.settings t with
  | nothing => rw [targetOf_of_nothing ht, targetOf_of_nothing (hshape.trans ht)]
  | named name => rw [targetOf_of_named ht, targetOf_of_named (hshape.trans ht)]
  | container held => rw [targetOf_of_container ht, targetOf_of_container (hshape.trans ht)]

/-! ## Arrays and names -/

/-- A text that begins with a name is no function type when it holds no dash. -/
theorem Opens.not_refersToNothing (h : Opens s) (hdash : '-' ∉ s) :
    refersToNothing (trim s) = false := by
  have hfunction : isFunctionType (trim s) = false :=
    containsText_eq_false (fun hmem => hdash ((trim_sublist s).subset hmem)) ['>']
  obtain ⟨c, rest, htrim, hletter⟩ := h.exists_trim
  have hplain : ∀ d ∈ ['?', '*'], ¬ (isLetter d = true ∨ d = '_') :=
    forall_mem_of_all (by decide)
  have hquestion : c ≠ '?' := by
    rintro rfl
    exact hplain _ (by simp) hletter
  have hstar : c ≠ '*' := by
    rintro rfl
    exact hplain _ (by simp) hletter
  rw [refersToNothing, hfunction, htrim]
  simp [hquestion, hstar]

/-- The shape of a type is found by its end and its name. -/
theorem shapeOf_of_opens (settings : Extraction) (h : Opens s) (hdash : '-' ∉ s)
    (hcore : core s = trim s) :
    shapeOf settings s =
      match element? (trim s) with
      | some inner => .container (some inner)
      | none =>
        if isCollection settings (nameOf (trim s)) then
          .container (genericArguments (trim s)).head?
        else .named (nameOf (trim s)) := by
  rw [shapeOf, hcore, h.not_refersToNothing hdash]
  exact if_neg Bool.false_ne_true

/-- An array refers to what its elements refer to. -/
theorem targetOf_of_element (h : Opens s) (hdash : '-' ∉ s) (hcore : core s = trim s)
    (helement : element? (trim s) = some inner) :
    targetOf scope s = ((targetOf scope inner).1, true) := by
  have hshape : shapeOf scope.settings s = .container (some inner) := by
    rw [shapeOf_of_opens _ h hdash hcore, helement]
  rw [targetOf_of_container hshape, Option.bind_some]

/-- A name that may be declared refers to its declaration unless it is a value or a parameter. -/
theorem declaredType_last (scope : TypeScope) (n : TypeName) :
    declaredType scope n.last =
      if isPrimitive scope.language scope.settings n.last ∨ n.last ∈ scope.parameters then none
      else some n.last := by
  obtain ⟨c, cs, htext, hletter⟩ := n.simple.exists_text_eq_cons
  have hfirst : (n.last.toList.head?.any fun c => isLetter c || c == '_') = true := by
    rw [TypeName.last, String.toList_ofList, htext]
    simpa using hletter
  rw [declaredType, hfirst]
  simp

/-- A type with a name refers to what this name refers to, a container to what its first argument
does. -/
theorem targetOf_of_name {target : Option String} (h : Opens s) (hdash : '-' ∉ s)
    (hcore : core s = trim s) (helement : element? (trim s) = none)
    (hname : nameOf (trim s) = n.last)
    (htarget : isCollection scope.settings n.last = true →
      ((genericArguments (trim s)).head?.bind fun x => (targetOf scope x).1) = target) :
    targetOf scope s = n.reference scope target := by
  have hshape := shapeOf_of_opens scope.settings h hdash hcore
  rw [helement, hname] at hshape
  rw [TypeName.reference]
  by_cases hcollection : isCollection scope.settings n.last = true
  · rw [if_pos hcollection, ← htarget hcollection]
    exact targetOf_of_container (hshape.trans (if_pos hcollection))
  · rw [if_neg hcollection, targetOf_of_named (hshape.trans (if_neg hcollection)),
      declaredType_last]
    split_ifs <;> rfl

/-- A text does not end with a mark that ends otherwise. -/
theorem isSuffixOf?_eq_none {mark : List Char} {d : Char} (hs : s.getLast? = some c)
    (hmark : mark.getLast? = some d) (hne : c ≠ d) : mark.isSuffixOf? s = none := by
  cases hrest : mark.isSuffixOf? s with
  | none => rfl
  | some rest =>
    rw [← append_of_isSuffixOf? hrest, List.getLast?_append, hmark, Option.some_or] at hs
    exact absurd (Option.some.inj hs).symm hne

/-- What a type ends in tells that it is no array. -/
theorem element?_eq_none (hlast : s.getLast? = some c) (hbracket : c ≠ ']') (hdot : c ≠ '.') :
    element? s = none := by
  rw [element?, isSuffixOf?_eq_none (d := ']') hlast rfl hbracket,
    isSuffixOf?_eq_none (d := '.') hlast rfl hdot, Option.none_or]

/-- Brackets behind a text make it an array of what the text says. -/
theorem element?_array (s : List Char) : element? (s ++ ['[', ']']) = some s := by
  have hsuffix : "[]".toList.isSuffixOf? (s ++ ['[', ']']) = some s :=
    List.isSuffixOf?_eq_some_iff_append_eq.mpr rfl
  rw [element?, hsuffix, Option.some_or]

/-- Dots behind a text make it an array of what the text says. -/
theorem element?_variadic (s : List Char) : element? (s ++ ['.', '.', '.']) = some s := by
  have hsuffix : "...".toList.isSuffixOf? (s ++ ['.', '.', '.']) = some s :=
    List.isSuffixOf?_eq_some_iff_append_eq.mpr rfl
  have hlast : (s ++ ['.', '.', '.']).getLast? = some '.' := by simp
  rw [element?, isSuffixOf?_eq_none hlast rfl (by decide : '.' ≠ ']'), Option.none_or, hsuffix]

/-- The simple name of a text does not depend on blanks around it. -/
theorem simpleName_trim (s : List Char) : simpleName (trim s) = simpleName s :=
  trim_afterLast_trim rfl s

/-- The name of a generic type stands in front of its first angle bracket. -/
theorem nameOf_append (hs : '<' ∉ s) (t : List Char) :
    nameOf (s ++ '<' :: t) = String.ofList (simpleName s) := by
  rw [nameOf, genericBase, beforeChar_append hs]

/-- The name of a type without angle brackets is the simple name of its text. -/
theorem nameOf_eq_self (hs : '<' ∉ s) : nameOf s = String.ofList (simpleName s) := by
  rw [nameOf, genericBase, beforeChar_eq_self hs]

/-- A type without angle brackets has no arguments. -/
theorem genericArguments_eq_nil (hs : '<' ∉ s) : genericArguments s = [] := by
  rw [genericArguments, cutAt?_eq_none hs]

/-! ## Parts of types -/

/-- The depth from which on a part of a type has no commas outside of its brackets. -/
def Part.least : Part → Int
  | .type _ => 0
  | .argument _ => 0
  | .arguments _ => 1

/-- A text without brackets, commas and dashes is inert. -/
theorem inert_of_forall
    (h : ∀ c ∈ s, c ∉ ['<', '(', '[', '>', ')', ']', ','] ∧ c ≠ '-') : Inert 0 s :=
  ⟨nested_of_forall fun c hc => (h c hc).1, fun hmem => (h '-' hmem).2 rfl⟩

/-- A dotted name is inert. -/
theorem Dotted.inert (hs : Dotted qs i s) : Inert 0 s := ⟨hs.nested, hs.notMem (by decide)⟩

/-- An inert list in brackets is an inert text. -/
theorem Inert.enclose {opening closing : Char} (hs : Inert 1 s)
    (hopening : opening ∈ ['<', '(', '[']) (hclosing : closing ∈ ['>', ')', ']']) :
    Inert 0 (opening :: s ++ [closing]) := by
  have hdash : '-' ∉ ['<', '(', '['] ∧ '-' ∉ ['>', ')', ']'] := by decide
  have hlast : s.getLast? ≠ some '-' := fun hlast => hs.2 (List.mem_of_getLast? hlast)
  refine ⟨NestedList.enclose hs.1 (apart_of_ne hlast _) hopening hclosing, ?_⟩
  simp only [List.mem_append, List.mem_cons, List.not_mem_nil, or_false, not_or]
  exact ⟨⟨fun h => hdash.1 (h ▸ hopening), hs.2⟩, fun h => hdash.2 (h ▸ hclosing)⟩

/-- The brackets of a part of a type close each other. -/
theorem Spells.inert {settings : Extraction} {p : Part} (h : Spells (.normal settings) p s) :
    Inert p.least s := by
  induction h with
  | name hs => exact hs.inert
  | generic hs hf _ iht =>
    rw [List.append_assoc]
    exact hs.inert.append ((hf.1.append iht).enclose (by decide) (by decide))
  | array _ ih =>
    have hnil : Inert 1 [] := ⟨keepsDepth_nil, List.not_mem_nil⟩
    exact ih.append (hnil.enclose (by decide) (by decide))
  | variadic _ ih => exact ih.append (inert_of_forall (forall_mem_of_all (by decide)))
  | nullable _ _ ih => exact ih.append (inert_of_forall (forall_mem_of_all (by decide)))
  | padType hw _ hw' ih => exact ((inert_of_blank hw).append ih).append (inert_of_blank hw')
  | type _ ih => exact ih
  | any => exact inert_of_forall (forall_mem_of_all (by decide))
  | star => exact inert_of_forall (forall_mem_of_all (by decide))
  | wildcard bound hw hw' _ ih =>
    cases hw
    cases hw'
    refine Inert.append (inert_of_forall ?_) ih
    cases bound <;> exact forall_mem_of_all (by decide)
  | projected projection hw _ ih =>
    cases hw
    refine Inert.append (inert_of_forall ?_) ih
    cases projection <;> exact forall_mem_of_all (by decide)
  | padArgument hw _ hw' ih => exact ((inert_of_blank hw).append ih).append (inert_of_blank hw')
  | single _ ih => exact ih.toList
  | cons _ hf _ ihs iht =>
    have hcomma : Inert 1 [','] := ⟨nestedList_comma, by decide⟩
    exact ihs.toList.append (hcomma.append (hf.append iht))

/-- A part of a type is read as what it is: a type by its reference, an argument by its target, and
of arguments the first, whatever blanks stand in front of it. -/
def Part.ReadAs (scope : TypeScope) : Part → List Char → Prop
  | .type e, s => targetOf scope s = e.reference scope
  | .argument a, s => ¬ Blank s ∧ (targetOf scope s).1 = a.target scope
  | .arguments as, s => ∀ a ∈ as.head?, ∀ w, Blank w →
    ∃ x, (splitTopLevel ',' (w ++ s)).head? = some x ∧ (targetOf scope x).1 = a.target scope

/-- The target of a text does not depend on blanks around it. -/
theorem targetOf_trim (scope : TypeScope) (s : List Char) :
    targetOf scope (trim s) = targetOf scope s :=
  targetOf_congr (core_congr (trim_trim s))

/-- Blanks around a text do not change its target. -/
theorem targetOf_pad (scope : TypeScope) {w' : List Char} (hw : Blank w) (hw' : Blank w') :
    targetOf scope (w ++ s ++ w') = targetOf scope s :=
  targetOf_congr (core_congr (by rw [trim_append_right _ hw', trim_append_left hw]))

/-- The text of a name is read by the part behind its last dot. -/
theorem Dotted.targetOf (hs : Dotted n.qualifiers n.simple s) :
    TypeRef.targetOf scope s = n.reference scope none := by
  obtain ⟨c, hc, hends⟩ := hs.exists_ends
  have hplain : ∀ d ∈ ['?', ']', '.'], isNameChar d = false := forall_mem_of_all (by decide)
  have hne {d : Char} (hd : d ∈ ['?', ']', '.']) : c ≠ d := by
    rintro rfl
    rw [hplain c hd] at hc
    cases hc
  have hbracket : '<' ∉ trim s := fun hmem => hs.notMem (by decide) ((trim_sublist s).subset hmem)
  refine targetOf_of_name hs.opens (hs.notMem (by decide))
    (core_of_opens hs.opens hends (hne (by decide)))
    (element?_eq_none hends.getLast?_trim (hne (by decide)) (hne (by decide))) ?_ ?_
  · rw [nameOf_eq_self hbracket, simpleName_trim, hs.simpleName, TypeName.last]
  · intro _
    rw [genericArguments_eq_nil hbracket]
    rfl

/-- A mark at the end of a type makes it a container of what stands in front of the mark. -/
theorem targetOf_append {mark : List Char} (h : Opens s) (hmark : Opens (s ++ mark))
    (hdash : '-' ∉ s ++ mark) (hends : Ends (s ++ mark) c) (hc : c ≠ '?')
    (hlast : mark.getLast? = some c) (helement : ∀ x, element? (x ++ mark) = some x) :
    targetOf scope (s ++ mark) = ((targetOf scope s).1, true) := by
  have htrim : trim (s ++ mark) = trimStart s ++ mark := trim_append h.not_blank hlast hends.1
  have hinner : element? (trim (s ++ mark)) = some (trimStart s) := by rw [htrim, helement]
  rw [targetOf_of_element hmark hdash (core_of_opens hmark hends hc) hinner,
    targetOf_congr (core_congr (trim_trimStart s))]

/-- The text of a name with arguments is read by the name and the first argument. -/
theorem targetOf_generic {target : Option String} (hs : Dotted n.qualifiers n.simple s)
    (hdash : '-' ∉ s ++ '<' :: t ++ ['>'])
    (htarget : isCollection scope.settings n.last = true →
      ((splitTopLevel ',' t).head?.bind fun x => (targetOf scope x).1) = target) :
    targetOf scope (s ++ '<' :: t ++ ['>']) = n.reference scope target := by
  have hopens : Opens (s ++ '<' :: t ++ ['>']) := by
    rw [List.append_assoc]
    exact hs.opens.append_right (stops_cons (by decide) _)
  have hends : Ends (s ++ '<' :: t ++ ['>']) '>' := ends_concat _ rfl
  have htrim : trim (s ++ '<' :: t ++ ['>']) = trimStart s ++ '<' :: t ++ ['>'] := by
    have hlast : ('<' :: t ++ ['>']).getLast? = some '>' := List.getLast?_concat
    rw [List.append_assoc, trim_append hs.opens.not_blank hlast hends.1, List.append_assoc]
  have hbracket : '<' ∉ trimStart s := fun hmem =>
    hs.notMem (by decide) ((List.dropWhile_sublist isSpace).subset hmem)
  have hname : simpleName (trimStart s) = n.simple.text := by
    rw [← simpleName_trim, trim_trimStart, simpleName_trim, hs.simpleName]
  refine targetOf_of_name hopens hdash (core_of_opens hopens hends (by decide))
    (element?_eq_none hends.getLast?_trim (by decide) (by decide)) ?_ ?_
  · rw [htrim, List.append_assoc, List.cons_append, nameOf_append hbracket, hname, TypeName.last]
  · rwa [htrim, genericArguments_append hbracket]

/-- A mark of variance in front of a type does not change its target. -/
theorem targetOf_mark (mark : String) (hmark : mark ∈ variances) (hs : Spells S (.type e) s) :
    targetOf scope (mark.toList ++ s) = targetOf scope s := by
  obtain ⟨c, hends, -⟩ := hs.exists_ends
  exact targetOf_congr (core_mark hmark hs.opens hends)

/-- A text that begins with no blank is not blank. -/
theorem not_blank_cons (hc : isSpace c = false) (s : List Char) : ¬ Blank (c :: s) := by
  intro hblank
  rw [hblank c List.mem_cons_self] at hc
  cases hc

/-- The text of a part of a type is read as that part. -/
theorem Spells.readAs {p : Part} (h : Spells (.normal scope.settings) p s) : p.ReadAs scope s := by
  induction h with
  | name hs => exact hs.targetOf
  | @generic n a as s f t hs hf ht ih =>
    refine targetOf_generic hs (Spells.generic hs hf ht).inert.2 fun hcollection => ?_
    obtain ⟨x, hhead, htarget⟩ := ih a rfl f (hf.2 hcollection)
    rw [hhead, Option.bind_some, htarget]
  | @array e s hs ih =>
    have harray := Spells.array hs
    have hends : Ends (s ++ ['[', ']']) ']' := (ends_concat ['['] rfl).append_left s
    rw [Part.ReadAs, targetOf_append hs.opens harray.opens harray.inert.2 hends (by decide) rfl
      element?_array, ih, TypeExpr.reference]
  | @variadic e s hs ih =>
    have hvariadic := Spells.variadic hs
    have hends : Ends (s ++ ['.', '.', '.']) '.' := (ends_concat ['.', '.'] rfl).append_left s
    rw [Part.ReadAs, targetOf_append hs.opens hvariadic.opens hvariadic.inert.2 hends (by decide)
      rfl element?_variadic, ih, TypeExpr.reference]
  | @nullable e s he hs ih =>
    obtain ⟨c, hends, hc⟩ := hs.exists_ends
    -- The inner type is not nullable, so that one question mark is all that is taken off.
    have hquestion : c ≠ '?' := fun h => by simp [hc h] at he
    have hcore : core (s ++ ['?']) = core s := by
      rw [core_question hs.opens hends hquestion, core_of_opens hs.opens hends hquestion]
    exact (targetOf_congr hcore).trans ih
  | padType hw _ hw' ih => exact (targetOf_pad scope hw hw').trans ih
  | type hs ih => exact ⟨hs.opens.not_blank, congrArg Prod.fst ih⟩
  | any =>
    have hnothing : refersToNothing (core ['?']) = true := by decide +kernel
    exact ⟨not_blank_cons rfl [], congrArg Prod.fst (targetOf_of_nothing (if_pos hnothing))⟩
  | star =>
    have hnothing : refersToNothing (core ['*']) = true := by decide +kernel
    exact ⟨not_blank_cons rfl [], congrArg Prod.fst (targetOf_of_nothing (if_pos hnothing))⟩
  | @wildcard bound e w w' s hw hw' hs ih =>
    cases hw
    cases hw'
    refine ⟨not_blank_cons rfl _, ?_⟩
    cases bound with
    | upper =>
      exact congrArg Prod.fst ((targetOf_mark "? extends " (by decide) hs).trans ih)
    | lower =>
      exact congrArg Prod.fst ((targetOf_mark "? super " (by decide) hs).trans ih)
  | @projected projection e w s hw hs ih =>
    cases hw
    cases projection with
    | output =>
      exact ⟨not_blank_cons rfl _,
        congrArg Prod.fst ((targetOf_mark "out " (by decide) hs).trans ih)⟩
    | input =>
      exact ⟨not_blank_cons rfl _,
        congrArg Prod.fst ((targetOf_mark "in " (by decide) hs).trans ih)⟩
  | padArgument hw _ hw' ih =>
    refine ⟨fun hblank => ih.1 fun c hc => hblank c ?_, by rw [targetOf_pad scope hw hw', ih.2]⟩
    exact List.mem_append_left _ (List.mem_append_right _ hc)
  | @single a s hs ih =>
    intro b hb w hw
    obtain rfl : a = b := Option.some.inj hb
    have hnested : Nested (w ++ s) := ((inert_of_blank hw).append hs.inert).1
    have hne : trim (w ++ s) ≠ [] := by
      rw [trim_append_left hw]
      exact mt trim_eq_nil_iff.mp ih.1
    refine ⟨trim (w ++ s), ?_, ?_⟩
    · rw [splitTopLevel_of_nested hnested hne, List.head?_cons]
    · rw [trim_append_left hw, targetOf_trim, ih.2]
  | @cons a b as s f t hs _ _ ih _ =>
    -- What stands behind the first comma is not looked at.
    intro d hd w hw
    obtain rfl : a = d := Option.some.inj hd
    have hnested : Nested (w ++ s) := ((inert_of_blank hw).append hs.inert).1
    refine ⟨trim (w ++ s), ?_, ?_⟩
    · rw [← List.append_assoc, splitTopLevel_append hnested, List.head?_cons]
    · rw [trim_append_left hw, targetOf_trim, ih.2]

/-! ## Types as they are written -/

/-- A text that does not begin with an annotation has none to lose. -/
theorem withoutAnnotations_of_ne (h : ∀ rest, trimStart s ≠ '@' :: rest) :
    withoutAnnotations s = trimStart s := by
  rw [withoutAnnotations]
  split
  · next rest hrest => exact absurd hrest (h rest)
  · rfl

/-- A text that begins with an annotation loses this one and those behind it. -/
theorem withoutAnnotations_of_at (h : trimStart s = '@' :: t) :
    withoutAnnotations s = withoutAnnotations (afterAnnotated t) := by
  rw [withoutAnnotations]
  split
  · next r hr =>
    rw [h] at hr
    rw [(List.cons.inj hr).2]
  · next hnone => exact absurd h (hnone t)

/-- What begins with a name has no annotations in front of it. -/
theorem withoutAnnotations_of_opens (h : Opens s) : withoutAnnotations s = trimStart s := by
  obtain ⟨c, rest, hfirst, hletter⟩ := h.exists_trimStart
  refine withoutAnnotations_of_ne fun r hr => ?_
  rw [hfirst] at hr
  obtain rfl : c = '@' := (List.cons.inj hr).1
  exact absurd hletter (by decide)

/-- The reading of a type that is written without annotations in front of it. -/
theorem Spells.resolve (hS : S.Normalizes scope.settings) (h : Spells S (.type e) s) :
    ((resolve scope s).target, (resolve scope s).isCollection) = e.reference scope := by
  have hdisplay : TypeRef.normalized (withoutAnnotations s) = TypeRef.normalized s := by
    rw [withoutAnnotations_of_opens h.opens, normalized_trimStart]
  have hread : targetOf scope (TypeRef.normalized s) = e.reference scope := (h.normalized hS).readAs
  rw [TypeRef.resolve, hdisplay, hread]

end ClassGraph.TypeSyntax

namespace ClassGraph

open Text TypeSyntax

/-- Whatever the language, the settings and the type parameters in scope are, the text of a type is
read as what the type refers to, and as a collection where the type is one. -/
theorem resolve_written (scope : TypeScope) (e : TypeExpr) (s : List Char) (h : e.Written s) :
    ((TypeRef.resolve scope s).target, (TypeRef.resolve scope s).isCollection) =
      e.reference scope :=
  h.resolve (Spacing.normalizes_plain scope.settings)

/-- The name of ships. -/
def shipName : TypeName where
  qualifiers := []
  simple := ⟨"Ship".toList, ⟨'S', rfl, .inl rfl⟩, by decide, by decide⟩

/-- The name of maps. -/
def mapName : TypeName where
  qualifiers := []
  simple := ⟨"Map".toList, ⟨'M', rfl, .inl rfl⟩, by decide, by decide⟩

/-- The full name of lists. -/
def listName : TypeName where
  qualifiers := [⟨"java".toList, ⟨'j', rfl, .inl rfl⟩, by decide, by decide⟩,
    ⟨"util".toList, ⟨'u', rfl, .inl rfl⟩, by decide, by decide⟩]
  simple := ⟨"List".toList, ⟨'L', rfl, .inl rfl⟩, by decide, by decide⟩

/-- A list of arrays of ships of any kind, or nothing. -/
def fleets : TypeExpr :=
  .nullable (.generic listName (.wildcard .upper (.array (.name shipName))) [])

/-- It may be written with many blanks. -/
theorem resolve_fleets :
    let text := "java.util . List<?  extends Ship [] > ?".toList
    let read := TypeRef.resolve { language := .java, settings := {} } text
    fleets.Written text ∧ (read.target, read.isCollection) = (some "Ship", true) := by
  have hspace : Blank [' '] := blank_singleton
  have hone : Spacing.plain.separates [' '] := ⟨by decide, hspace⟩
  have htwo : Spacing.plain.separates [' ', ' '] := ⟨by decide, hspace.append hspace⟩
  have hship : Spells .plain (.type (.name shipName)) "Ship ".toList :=
    .name (.simple _ blank_nil hspace)
  have hbound : Spells .plain (.argument _) "?  extends Ship [] ".toList :=
    .padArgument blank_nil (.wildcard .upper htwo hone (.array hship)) hspace
  have hlist : Dotted listName.qualifiers listName.simple "java.util . List".toList :=
    .qualified _ blank_nil blank_nil (.qualified _ blank_nil hspace (.simple _ hspace blank_nil))
  have hwritten : fleets.Written "java.util . List<?  extends Ship [] > ?".toList :=
    .nullable rfl (.padType blank_nil (.generic (f := []) hlist rfl (.single hbound)) hspace)
  exact ⟨hwritten, (resolve_written _ _ _ hwritten).trans (by decide)⟩

end ClassGraph
