import ClassGraph.Proofs.Source.Readings
import ClassGraph.Proofs.Text.Bracketed
import ClassGraph.Proofs.Text.Words

/-!
# Type parameter lists

The names that a type parameter list declares are read without a parser, too: all closing brackets
at the end of the list are taken off, the rest is split at its commas, and the name of a parameter
is its first word that is no modifier, without the colons at its end. `TypeParameter` holds a
parameter with all the blanks of its layout. `parameterNames_declared` shows that the names are
found in every layout but one: a colon between the name and the bound that has no blank on either
side makes one word of the three.

The closing brackets that belong to the last bound are taken off as well. That does no harm, because
what is left still begins with the name and what stands behind it (`TypeParameter.Cut`), and holds
no comma outside of its brackets.
-/

namespace ClassGraph.TypeSyntax

open Text TypeRef

/-! ## Type parameters -/

/-- Blanks, if any. -/
abbrev Blanks := { w : List Char // Blank w }

/-- At least one blank. -/
abbrev Gap := { w : List Char // w ≠ [] ∧ Blank w }

/-- What may stand in front of the name of a type parameter. -/
inductive Modifier where
  /-- Values of the type only go in. -/
  | input
  /-- Values of the type only come out. -/
  | output
  /-- The type is known when the program runs. -/
  | reified

/-- The word of a modifier. -/
def Modifier.word : Modifier → List Char
  | .input => "in".toList
  | .output => "out".toList
  | .reified => "reified".toList

/-- The characters that are no part of the name of a type parameter, besides the blanks. -/
def punctuation : List Char := ['<', '(', '[', '>', ')', ']', ',', '-', ':', '@']

/-- The name of a type parameter. -/
structure ParameterName where
  /-- The characters of the name. -/
  text : List Char
  /-- There is at least one. -/
  nonempty : text ≠ []
  /-- Names hold neither blanks nor punctuation. -/
  plain : ∀ c ∈ text, isSpace c = false ∧ c ∉ punctuation
  /-- The words of modifiers are no names. -/
  unmarked : ∀ m : Modifier, text ≠ m.word

/-- The text of a bound, of which little is known but that its brackets close each other. -/
structure BoundText where
  /-- The characters of the bound. -/
  text : List Char
  /-- Brackets close each other, and commas stand inside of them. -/
  bracketed : Bracketed false text
  /-- It begins neither with a blank nor with a colon. -/
  first : ∃ c ∈ text.head?, isSpace c = false ∧ c ≠ ':'

/-- How a type parameter is bounded. -/
inductive ParameterBound where
  /-- Not at all. -/
  | unbounded
  /-- Behind the word `extends`, with blanks on both sides. -/
  | word (before after : Gap) (bound : BoundText)
  /-- Behind a colon, with or without blanks on either side. -/
  | colon (before after : Blanks) (bound : BoundText)

/-- The text of a bound, with what stands in front of it. -/
def ParameterBound.text : ParameterBound → List Char
  | .unbounded => []
  | .word before after bound => before.1 ++ "extends".toList ++ after.1 ++ bound.text
  | .colon before after bound => before.1 ++ ':' :: (after.1 ++ bound.text)

/-- The words of modifiers, each with the blanks behind it. -/
def modifiersText : List (Modifier × Gap) → List Char
  | [] => []
  | (m, w) :: ms => m.word ++ (w.1 ++ modifiersText ms)

/-- A type parameter in its layout. -/
structure TypeParameter where
  /-- The blanks in front of it. -/
  front : Blanks
  /-- The modifiers in front of its name. -/
  modifiers : List (Modifier × Gap)
  /-- Its name. -/
  name : ParameterName
  /-- Its bound. -/
  bound : ParameterBound
  /-- The blanks behind it. -/
  back : Blanks

namespace TypeParameter

/-- The text of a parameter up to its name. -/
def head (p : TypeParameter) : List Char := p.front.1 ++ modifiersText p.modifiers ++ p.name.text

/-- The text of a parameter. -/
def text (p : TypeParameter) : List Char := p.head ++ (p.bound.text ++ p.back.1)

/-- The name that a parameter declares. -/
def declared (p : TypeParameter) : String := String.ofList p.name.text

/-- No blank stands between the name of a parameter, a colon and its bound. -/
def Tight (p : TypeParameter) : Prop :=
  ∃ before after bound, p.bound = .colon before after bound ∧ before.1 = [] ∧ after.1 = []

/-- What is found for a parameter: the name that it declares, unless its bound hangs on the name;
then something that goes on with the colon behind the name. -/
def Found (p : TypeParameter) (found : String) : Prop :=
  (¬ p.Tight → found = p.declared) ∧ (p.Tight → p.name.text ++ [':'] <+: found.toList)

end TypeParameter

/-- The text of a list of type parameters. -/
def parameterList (ps : List TypeParameter) : List Char :=
  '<' :: join [','] (ps.map TypeParameter.text) ++ ['>']

variable {p : TypeParameter} {ps : List TypeParameter} {ms : List (Modifier × Gap)}
  {w s t r u v closers : List Char} {c : Char}

/-! ## The text up to the name -/

/-- A modifier is a word without marks. -/
theorem Modifier.plain (m : Modifier) : m.word ≠ [] ∧
    ∀ c ∈ m.word, isSpace c = false ∧ c ∉ punctuation := by
  cases m <;> exact ⟨by decide, forall_mem_of_all (by decide)⟩

/-- No mark is a blank. -/
theorem not_isSpace_of_punctuation : ∀ c ∈ punctuation, isSpace c = false :=
  forall_mem_of_all (by decide)

/-- Blanks hold no mark. -/
theorem notMem_punctuation_of_blank (hw : Blank w) : ∀ c ∈ w, c ∉ punctuation :=
  fun c hc hmem => hw.notMem (not_isSpace_of_punctuation c hmem) hc

/-- Modifiers hold no mark. -/
theorem notMem_punctuation_of_modifiers (ms : List (Modifier × Gap)) :
    ∀ c ∈ modifiersText ms, c ∉ punctuation := by
  induction ms with
  | nil => simp [modifiersText]
  | cons m ms ih =>
    rw [modifiersText, List.forall_mem_append, List.forall_mem_append]
    exact ⟨fun c hc => (m.1.plain.2 c hc).2, notMem_punctuation_of_blank m.2.2.2, ih⟩

namespace TypeParameter

/-- The head of a parameter holds no mark. -/
theorem notMem_punctuation_of_head (p : TypeParameter) : ∀ c ∈ p.head, c ∉ punctuation := by
  rw [head, List.forall_mem_append, List.forall_mem_append]
  exact ⟨⟨notMem_punctuation_of_blank p.front.2, notMem_punctuation_of_modifiers p.modifiers⟩,
    fun c hc => (p.name.plain c hc).2⟩

/-- The head of a parameter is not blank. -/
theorem not_blank_head (p : TypeParameter) : ¬ Blank p.head := by
  obtain ⟨c, hc⟩ := List.exists_mem_of_ne_nil _ p.name.nonempty
  exact fun hblank => (hblank.notMem (p.name.plain c hc).1) (List.mem_append_right _ hc)

end TypeParameter

/-! ## The parts of a list -/

/-- A text without marks has no brackets that do not close each other. -/
theorem bracketed_of_plain (h : ∀ c ∈ s, c ∉ punctuation) : Bracketed false s :=
  bracketed_of_forall fun c hc hmem => h c hc (List.mem_append_left [':', '@'] hmem)

/-- The brackets of a bound close each other. -/
theorem ParameterBound.bracketed (b : ParameterBound) : Bracketed false b.text := by
  cases b with
  | unbounded => exact .nil
  | word before after bound =>
    have hword : ∀ c ∈ "extends".toList, c ∉ punctuation := forall_mem_of_all (by decide)
    exact (((bracketed_of_plain (notMem_punctuation_of_blank before.2.2)).append
      (bracketed_of_plain hword)).append
        (bracketed_of_plain (notMem_punctuation_of_blank after.2.2))).append bound.bracketed
  | colon before after bound =>
    exact (bracketed_of_plain (notMem_punctuation_of_blank before.2)).append
      (.plain (by decide)
        ((bracketed_of_plain (notMem_punctuation_of_blank after.2)).append bound.bracketed))

namespace TypeParameter

/-- The brackets of a parameter close each other, with its commas inside of them. -/
theorem nested (p : TypeParameter) : Nested p.text :=
  ((bracketed_of_plain p.notMem_punctuation_of_head).append
    (p.bound.bracketed.append (bracketed_of_plain (notMem_punctuation_of_blank p.back.2)))).nested

/-- The text is that of the parameter, without some of the closing brackets at its end. -/
def Cut (p : TypeParameter) (s : List Char) : Prop :=
  ∃ closers, (∀ c ∈ closers, c = '>') ∧ p.text = s ++ closers

/-- A beginning without closing brackets is left by the cut. -/
theorem exists_append_of_cut (hclosers : ∀ c ∈ closers, c = '>') (hu : '>' ∉ u)
    (h : u ++ v = s ++ closers) : ∃ r, s = u ++ r ∧ v = r ++ closers := by
  rcases List.append_eq_append_iff.mp h with ⟨r, hs, hv⟩ | ⟨r, hu', hclosers'⟩
  · exact ⟨r, hs, hv⟩
  · cases r with
    | nil => exact ⟨[], by simpa using hu'.symm, by simpa using hclosers'.symm⟩
    | cons c r =>
      obtain rfl := hclosers c (hclosers' ▸ List.mem_append_left _ List.mem_cons_self)
      exact absurd (hu' ▸ List.mem_append_right _ List.mem_cons_self) hu

/-! ## The name of a parameter -/

/-- A text that begins with blanks does not begin with a word. -/
theorem takeWhile_gap (hw : Blank w) (hne : w ≠ []) (t : List Char) :
    (w ++ t).takeWhile (!isSpace ·) = [] := by
  obtain ⟨c, w, rfl⟩ := List.exists_cons_of_ne_nil hne
  exact List.takeWhile_cons_of_neg (by simp [hw c List.mem_cons_self])

/-- What belongs to the word in front of a colon: nothing when a blank stands between them, else the
colon, and with it the bound when no blank stands between these either. -/
theorem takeWhile_of_colon {before after : Blanks} {bound : BoundText} {back : List Char}
    (hclosers : ∀ c ∈ closers, c = '>')
    (h : before.1 ++ ':' :: (after.1 ++ (bound.text ++ back)) = r ++ closers) :
    (before.1 ≠ [] → r.takeWhile (!isSpace ·) = []) ∧
      (before.1 = [] → after.1 ≠ [] → r.takeWhile (!isSpace ·) = [':']) ∧
      (before.1 = [] → after.1 = [] →
        ∃ c t, c ≠ ':' ∧ r.takeWhile (!isSpace ·) = ':' :: c :: t) := by
  obtain ⟨r, rfl, hrest⟩ := exists_append_of_cut hclosers (before.2.notMem rfl) h
  have hcolon : '>' ∉ ':' :: after.1 := by simpa using after.2.notMem rfl
  refine ⟨takeWhile_gap before.2 (t := r), fun hbefore hafter => ?_, fun hbefore hafter => ?_⟩
  · obtain ⟨r, rfl, -⟩ := exists_append_of_cut (u := ':' :: after.1) hclosers hcolon hrest
    rw [hbefore, List.nil_append, List.cons_append, List.takeWhile_cons_of_pos (by decide),
      takeWhile_gap after.2 hafter]
  · -- The bound is cut at its end only, where its first character does not stand.
    obtain ⟨c, hc, hspace, hne⟩ := bound.first
    obtain ⟨t, ht⟩ := List.head?_eq_some_iff.mp hc
    have hfirst : '>' ∉ [':', c] := by
      have hclosing : c ∉ ['>', ')', ']'] := bound.bracketed.notMem_of_mem_head? hc
      simp only [List.mem_cons, not_or] at hclosing ⊢
      exact ⟨by decide, Ne.symm hclosing.1, List.not_mem_nil⟩
    rw [hafter, ht] at hrest
    have hcut : [':', c] ++ (t ++ back) = r ++ closers := hrest
    obtain ⟨r, rfl, -⟩ := exists_append_of_cut hclosers hfirst hcut
    have hword : ∀ d ∈ [':', c], (!isSpace d) = true := by
      rw [List.forall_mem_cons, List.forall_mem_singleton, hspace]
      exact ⟨rfl, rfl⟩
    refine ⟨c, r.takeWhile (!isSpace ·), hne, ?_⟩
    rw [hbefore, List.nil_append, List.takeWhile_append_of_pos hword]
    rfl

/-- What belongs to the word of the name: nothing or a colon, unless the bound hangs on the name. -/
theorem takeWhile_of_cut (hclosers : ∀ c ∈ closers, c = '>')
    (h : p.bound.text ++ p.back.1 = r ++ closers) :
    (¬ p.Tight → r.takeWhile (!isSpace ·) = [] ∨ r.takeWhile (!isSpace ·) = [':']) ∧
      (p.Tight → ∃ c t, c ≠ ':' ∧ r.takeWhile (!isSpace ·) = ':' :: c :: t) := by
  rw [Tight]
  cases hbound : p.bound with
  | unbounded =>
    rw [hbound, ParameterBound.text, List.nil_append] at h
    have hr : Blank r := fun c hc => p.back.2 c (h ▸ List.mem_append_left _ hc)
    refine ⟨fun _ => .inl ?_, by rintro ⟨_, _, _, hcolon, -⟩; cases hcolon⟩
    rcases eq_or_ne r [] with rfl | hne
    · rfl
    · simpa using takeWhile_gap hr hne []
  | word before after bound =>
    rw [hbound, ParameterBound.text] at h
    simp only [List.append_assoc] at h
    obtain ⟨r', rfl, -⟩ := exists_append_of_cut hclosers (before.2.2.notMem rfl) h
    exact ⟨fun _ => .inl (takeWhile_gap before.2.2 before.2.1 r'),
      by rintro ⟨_, _, _, hcolon, -⟩; cases hcolon⟩
  | colon before after bound =>
    rw [hbound, ParameterBound.text] at h
    simp only [List.append_assoc, List.cons_append] at h
    obtain ⟨hnothing, hcolon, hhangs⟩ := takeWhile_of_colon hclosers h
    constructor
    · intro hloose
      by_cases hbefore : before.1 = []
      · exact .inr (hcolon hbefore fun hafter =>
          hloose ⟨before, after, bound, rfl, hbefore, hafter⟩)
      · exact .inl (hnothing hbefore)
    · rintro ⟨_, _, _, heq, hbefore, hafter⟩
      cases heq
      exact hhangs hbefore hafter

end TypeParameter

/-- The modifiers in front of a text are its first words. -/
theorem words_modifiersText (ms : List (Modifier × Gap)) (t : List Char) :
    words (modifiersText ms ++ t) = ms.map (·.1.word) ++ words t := by
  induction ms with
  | nil => rfl
  | cons m ms ih =>
    have hword : ∀ c ∈ m.1.word, isSpace c = false := fun c hc => (m.1.plain.2 c hc).1
    rw [modifiersText, List.append_assoc, List.append_assoc,
      words_word_gap hword m.1.plain.1 m.2.2.2 m.2.2.1, ih, List.map_cons, List.cons_append]

/-- The words that are passed over are those of the modifiers. -/
theorem contains_modifiers_iff : (["in", "out", "reified"].map String.toList).contains s = true ↔
    ∃ m : Modifier, s = m.word := by
  rw [List.contains_iff_mem]
  constructor
  · simp only [List.map_cons, List.map_nil, List.mem_cons, List.not_mem_nil, or_false]
    rintro (rfl | rfl | rfl)
    · exact ⟨.input, rfl⟩
    · exact ⟨.output, rfl⟩
    · exact ⟨.reified, rfl⟩
  · rintro ⟨m, rfl⟩
    cases m <;> decide

/-- The first word that is no modifier. -/
theorem find?_modifiers (hs : ∀ m : Modifier, s ≠ m.word) (more : List (List Char)) :
    (ms.map (·.1.word) ++ s :: more).find?
      (fun word => !(["in", "out", "reified"].map String.toList).contains word) = some s := by
  have hname : ¬ (["in", "out", "reified"].map String.toList).contains s = true := by
    rw [contains_modifiers_iff, not_exists]
    exact hs
  induction ms with
  | nil => exact List.find?_cons_of_pos (by simpa using hname)
  | cons m ms ih =>
    have hword : (["in", "out", "reified"].map String.toList).contains m.1.word = true :=
      contains_modifiers_iff.mpr ⟨m.1, rfl⟩
    exact (List.find?_cons_of_neg (by rw [hword]; decide)).trans ih

namespace TypeParameter

/-- No annotation stands in front of a parameter. -/
theorem withoutAnnotations_trim (p : TypeParameter) (r : List Char) :
    withoutAnnotations (trim (p.head ++ r)) = trim (p.head ++ r) := by
  refine (withoutAnnotations_of_ne fun rest hrest => ?_).trans (trimStart_trim _)
  rw [trimStart_trim] at hrest
  obtain ⟨w, -, hstart⟩ := exists_trimStart (p.head ++ r)
  rw [trimStart_append_right p.not_blank_head, hrest, List.cons_append] at hstart
  cases hhead : trimStart p.head with
  | nil => exact p.not_blank_head (trimStart_eq_nil_iff.mp hhead)
  | cons c t =>
    rw [hhead] at hstart
    obtain rfl : c = '@' := (List.cons.inj hstart).1
    have hmem : '@' ∈ trimStart p.head := by
      rw [hhead]
      exact List.mem_cons_self
    have hmem' : '@' ∈ p.head := (List.dropWhile_sublist isSpace).subset hmem
    exact p.notMem_punctuation_of_head '@' hmem' (by decide)

/-- Of a parameter that is cut, the text up to the name is left. -/
theorem Cut.exists_append (h : p.Cut s) : ∃ r, s = p.head ++ r ∧
    ∃ closers, (∀ c ∈ closers, c = '>') ∧ p.bound.text ++ p.back.1 = r ++ closers := by
  obtain ⟨closers, hclosers, htext⟩ := h
  have hhead : '>' ∉ p.head := fun hmem => p.notMem_punctuation_of_head '>' hmem (by decide)
  obtain ⟨r, hs, hrest⟩ := exists_append_of_cut hclosers hhead htext
  exact ⟨r, hs, closers, hclosers, hrest⟩

/-- The name of a parameter is found in its text, also when it is cut. -/
theorem Cut.exists_parameterName? (h : p.Cut s) :
    ∃ x, parameterName? (trim s) = some x ∧ p.Found (String.ofList x) := by
  obtain ⟨r, rfl, closers, hclosers, hrest⟩ := h.exists_append
  obtain ⟨hloose, htight⟩ := takeWhile_of_cut hclosers hrest
  have hplain : ∀ c ∈ p.name.text, isSpace c = false := fun c hc => (p.name.plain c hc).1
  have hcolon : ':' ∉ p.name.text := fun hmem => (p.name.plain ':' hmem).2 (by decide)
  have hwords : words (trim (p.head ++ r)) = p.modifiers.map (·.1.word) ++
      (p.name.text ++ r.takeWhile (!isSpace ·)) :: words (r.dropWhile (!isSpace ·)) := by
    rw [words_trim, head, List.append_assoc, List.append_assoc, words_append_left p.front.2,
      words_modifiersText, words_word_append hplain p.name.nonempty]
  -- A word with a colon in it is no modifier.
  have hunmarked : ∀ m : Modifier, p.name.text ++ r.takeWhile (!isSpace ·) ≠ m.word := by
    intro m hm
    by_cases hcolon' : ':' ∈ r.takeWhile (!isSpace ·)
    · exact (m.plain.2 ':' (hm ▸ List.mem_append_right _ hcolon')).2 (by decide)
    · have hnil : r.takeWhile (!isSpace ·) = [] := by
        by_cases hp : p.Tight
        · obtain ⟨c, t, -, ht⟩ := htight hp
          simp [ht] at hcolon'
        · exact (hloose hp).resolve_right fun h => by simp [h] at hcolon'
      rw [hnil, List.append_nil] at hm
      exact p.name.unmarked m hm
  refine ⟨dropEndWhile (· == ':') (p.name.text ++ r.takeWhile (!isSpace ·)), ?_, ?_, ?_⟩
  · rw [parameterName?, withoutAnnotations_trim, hwords, find?_modifiers hunmarked, Option.map_some]
  · intro hp
    have hself : dropEndWhile (· == ':') p.name.text = p.name.text := by
      refine dropEndWhile_eq_self fun c hc => beq_eq_false_iff_ne.mpr ?_
      rintro rfl
      exact hcolon (List.mem_of_getLast? hc)
    rw [declared]
    rcases hloose hp with hnil | hone
    · rw [hnil, List.append_nil, hself]
    · rw [hone, dropEndWhile_append (by simp), hself]
  · intro hp
    obtain ⟨c, t, hc, ht⟩ := htight hp
    have hstays : (c == ':') = false := beq_eq_false_iff_ne.mpr hc
    have hword : p.name.text ++ ':' :: c :: t = p.name.text ++ [':'] ++ c :: t := by simp
    rw [String.toList_ofList, ht, hword, dropEndWhile_append_cons (p := (· == ':')) hstays]
    exact List.prefix_append _ _

/-! ## Lists -/

/-- A parameter without some of its last brackets has no comma outside of its brackets. -/
theorem Cut.unsplit (h : p.Cut s) : Unsplit ',' none 0 s := by
  obtain ⟨closers, -, htext⟩ := h
  have hnested := (p.nested 0 none (Int.le_refl 0) (apart_of_ne (by simp) _)).1
  rw [htext, unsplit_append] at hnested
  exact hnested.1

/-- A parameter without some of its last brackets is not blank. -/
theorem Cut.trim_ne_nil (h : p.Cut s) : trim s ≠ [] := by
  obtain ⟨r, rfl, -⟩ := h.exists_append
  rw [Ne, trim_eq_nil_iff]
  exact fun hblank => p.not_blank_head fun c hc => hblank c (List.mem_append_left r hc)

/-- A parameter is cut so when nothing is taken away. -/
theorem cut_text (p : TypeParameter) : p.Cut p.text := ⟨[], by simp, by simp⟩

/-- A parameter is cut so when all closing brackets at its end are taken away. -/
theorem cut_dropEndWhile (p : TypeParameter) : p.Cut (dropEndWhile (· == '>') p.text) := by
  obtain ⟨closers, hclosers, htext⟩ := exists_dropEndWhile (· == '>') p.text
  exact ⟨closers, fun c hc => eq_of_beq (hclosers c hc), htext⟩

/-- A list of parameters without its closing brackets is split into texts of the parameters. -/
theorem exists_splitTopLevel (ps : List TypeParameter) :
    ∃ ts, splitTopLevel ',' (dropEndWhile (· == '>') (join [','] (ps.map text))) = ts.map trim ∧
      List.Forall₂ Cut ps ts := by
  induction ps with
  | nil => exact ⟨[], by decide, .nil⟩
  | cons p ps ih =>
    cases ps with
    | nil =>
      have hcut := p.cut_dropEndWhile
      exact ⟨[_], splitTopLevel_of_unsplit hcut.unsplit hcut.trim_ne_nil, .cons hcut .nil⟩
    | cons q ps =>
      obtain ⟨ts, hsplit, hts⟩ := ih
      have hjoin : join [','] ((p :: q :: ps).map text) =
          p.text ++ ',' :: join [','] ((q :: ps).map text) := by
        simp [join]
      refine ⟨p.text :: ts, ?_, .cons p.cut_text hts⟩
      rw [hjoin, dropEndWhile_append_cons (by decide), splitTopLevel_append p.nested, hsplit,
        List.map_cons]

/-- For each of the parameters something is found. -/
theorem forall₂_found {ts : List (List Char)} (h : List.Forall₂ Cut ps ts) :
    List.Forall₂ Found ps (((ts.map trim).filterMap parameterName?).map String.ofList) := by
  induction h with
  | nil => exact .nil
  | cons hcut _ ih =>
    obtain ⟨x, hx, hfound⟩ := hcut.exists_parameterName?
    rw [List.map_cons, List.filterMap_cons_some hx, List.map_cons]
    exact .cons hfound ih

/-- A list of parameters does not begin with an opening bracket. -/
theorem dropLeading_join (ps : List TypeParameter) :
    dropLeading '<' (join [','] (ps.map text) ++ ['>']) = join [','] (ps.map text) ++ ['>'] := by
  cases ps with
  | nil => rfl
  | cons p ps =>
    obtain ⟨rest, hrest⟩ : ∃ rest, join [','] ((p :: ps).map text) ++ ['>'] = p.head ++ rest := by
      cases ps <;> simp [join, text]
    cases hhead : p.head with
    | nil => exact absurd (hhead ▸ blank_nil) p.not_blank_head
    | cons c t =>
      have hc : ¬ (c == '<') = true := by
        rw [beq_iff_eq]
        rintro rfl
        exact p.notMem_punctuation_of_head '<' (hhead ▸ List.mem_cons_self) (by decide)
      rw [hrest, hhead]
      exact List.dropWhile_cons_of_neg hc

end TypeParameter

/-- For each parameter of a list something is found, in order. -/
theorem forall₂_parameterNames (ps : List TypeParameter) (w w' : Blanks) :
    List.Forall₂ TypeParameter.Found ps (parameterNames (w.1 ++ parameterList ps ++ w'.1)) := by
  obtain ⟨ts, hsplit, hts⟩ := TypeParameter.exists_splitTopLevel ps
  have htrim : trim (w.1 ++ parameterList ps ++ w'.1) = parameterList ps := by
    have hstart : ¬ Blank ('<' :: join [','] (ps.map TypeParameter.text)) := not_blank_cons rfl _
    rw [trim_append_right _ w'.2, trim_append_left w.2, parameterList,
      trim_append (c := '>') hstart rfl rfl, trimStart_cons rfl]
  have hopening : dropLeading '<' (parameterList ps) =
      join [','] (ps.map TypeParameter.text) ++ ['>'] := by
    rw [← TypeParameter.dropLeading_join]
    exact List.dropWhile_cons_of_pos rfl
  have hnames := TypeParameter.forall₂_found hts
  rw [parameterNames, htrim, hopening, dropEndWhile_append (by simp), hsplit]
  exact hnames

/-- Every loose parameter is found by its name. -/
theorem TypeParameter.declared_mem {names : List String}
    (h : List.Forall₂ TypeParameter.Found ps names) (hp : p ∈ ps) (hloose : ¬ p.Tight) :
    p.declared ∈ names := by
  induction h with
  | nil => cases hp
  | @cons q x _ _ hfound _ ih =>
    rcases List.mem_cons.mp hp with rfl | hp
    · rw [hfound.1 hloose]
      exact List.mem_cons_self
    · exact List.mem_cons_of_mem x (ih hp)

/-- Where the bound of no parameter hangs on its name, what is found are the declared names. -/
theorem TypeParameter.eq_map_declared {names : List String}
    (h : List.Forall₂ TypeParameter.Found ps names) (hloose : ∀ p ∈ ps, ¬ p.Tight) :
    names = ps.map TypeParameter.declared := by
  induction h with
  | nil => rfl
  | cons hfound _ ih =>
    rw [List.forall_mem_cons] at hloose
    rw [List.map_cons, hfound.1 hloose.1, ih hloose.2]

end ClassGraph.TypeSyntax

namespace ClassGraph

open Text TypeSyntax

/-- The names that are found in a type parameter list. There is one for each parameter, in order,
and it is the name that the parameter declares, whatever the layout, unless a colon stands between
the name and the bound without a blank on either side: then what is found goes on behind the name.
In a scope with the names that are found, no text refers to one that was found right. -/
theorem parameterNames_declared (scope : TypeScope) (ps : List TypeParameter) (w w' : Blanks) :
    let names := TypeRef.parameterNames (w.1 ++ parameterList ps ++ w'.1)
    let inner := { scope with parameters := scope.parameters ++ names }
    List.Forall₂ TypeParameter.Found ps names ∧
      ((∀ p ∈ ps, ¬ p.Tight) → names = ps.map TypeParameter.declared) ∧
      ∀ p ∈ ps, ¬ p.Tight → ∀ s, (TypeRef.resolve scope s).target = some p.declared →
        (TypeRef.resolve inner s).target = none := by
  intro names inner
  have hfound : List.Forall₂ TypeParameter.Found ps names := forall₂_parameterNames ps w w'
  refine ⟨hfound, TypeParameter.eq_map_declared hfound, fun p hp hloose s hs => ?_⟩
  have hmem : p.declared ∈ names := TypeParameter.declared_mem hfound hp hloose
  rw [TypeRef.target_resolve_parameters, hs, Option.filter_some, if_neg (by simpa using hmem)]

/-- No blanks. -/
def noBlanks : Blanks := ⟨[], blank_nil⟩

/-- A blank. -/
def oneBlank : Gap := ⟨[' '], by decide, blank_singleton⟩

/-- The parameter `in T : Comparable<T>`. -/
def comparedParameter : TypeParameter where
  front := noBlanks
  modifiers := [(.input, oneBlank)]
  name := ⟨"T".toList, by decide, forall_mem_of_all (by decide), fun m => by cases m <;> decide⟩
  bound := .colon ⟨[' '], blank_singleton⟩ ⟨[' '], blank_singleton⟩
    ⟨"Comparable".toList ++ ('<' :: "T".toList ++ '>' :: []),
      (bracketed_of_forall (forall_mem_of_all (by decide))).append
        (.group (by decide) (bracketed_of_forall (forall_mem_of_all (by decide))) .nil),
      ⟨'C', rfl, by decide⟩⟩
  back := noBlanks

/-- The parameter `U: (T) -> List<U>`. -/
def handlerParameter : TypeParameter where
  front := ⟨[' '], blank_singleton⟩
  modifiers := []
  name := ⟨"U".toList, by decide, forall_mem_of_all (by decide), fun m => by cases m <;> decide⟩
  bound := .colon noBlanks ⟨[' '], blank_singleton⟩
    ⟨'(' :: "T".toList ++ ')' :: ' ' :: '-' :: '>' :: (" List".toList ++
        ('<' :: "U".toList ++ '>' :: [])),
      .group (by decide) (bracketed_of_forall (forall_mem_of_all (by decide)))
        (.plain (by decide) (.arrow ((bracketed_of_forall (forall_mem_of_all (by decide))).append
          (.group (by decide) (bracketed_of_forall (forall_mem_of_all (by decide))) .nil)))),
      ⟨'(', rfl, by decide⟩⟩
  back := noBlanks

/-- Both names are found, and neither is referred to. -/
theorem parameterNames_handler :
    let names := TypeRef.parameterNames "<in T : Comparable<T>, U: (T) -> List<U>>".toList
    let scope : TypeScope := { language := .kotlin, settings := {} }
    parameterList [comparedParameter, handlerParameter] =
        "<in T : Comparable<T>, U: (T) -> List<U>>".toList ∧
      names = ["T", "U"] ∧
      (TypeRef.resolve scope "Array<out U?>".toList).target = some "U" ∧
      (TypeRef.resolve { scope with parameters := names } "Array<out U?>".toList).target =
        none := by
  intro names scope
  have hlist : parameterList [comparedParameter, handlerParameter] =
      "<in T : Comparable<T>, U: (T) -> List<U>>".toList := by decide
  have hloose : ∀ p ∈ [comparedParameter, handlerParameter], ¬ p.Tight := by
    rw [List.forall_mem_cons, List.forall_mem_singleton]
    constructor <;> rintro ⟨before, after, bound, heq, -, hafter⟩ <;> cases heq <;> cases hafter
  obtain ⟨-, hnames, hnone⟩ :=
    parameterNames_declared scope [comparedParameter, handlerParameter] noBlanks noBlanks
  have htext : noBlanks.1 ++ parameterList [comparedParameter, handlerParameter] ++ noBlanks.1 =
      "<in T : Comparable<T>, U: (T) -> List<U>>".toList := by
    rw [hlist]
    decide
  rw [htext] at hnames hnone
  have htarget : (TypeRef.resolve scope "Array<out U?>".toList).target =
      some handlerParameter.declared := by decide +kernel
  have hmem : handlerParameter ∈ [comparedParameter, handlerParameter] :=
    List.mem_cons_of_mem _ List.mem_cons_self
  exact ⟨hlist, (hnames hloose).trans (by decide), htarget.trans (by decide),
    hnone _ hmem (hloose _ hmem) _ htarget⟩

/-- The parameter `T:Ship`. -/
def shipParameter : TypeParameter where
  front := noBlanks
  modifiers := []
  name := ⟨"T".toList, by decide, forall_mem_of_all (by decide), fun m => by cases m <;> decide⟩
  bound := .colon noBlanks noBlanks
    ⟨"Ship".toList, bracketed_of_forall (forall_mem_of_all (by decide)), ⟨'S', rfl, by decide⟩⟩
  back := noBlanks

/-- A colon without blanks hides the name in front of it, so that the parameter is referred to as if
it were declared elsewhere. -/
theorem parameterNames_tight :
    let names := TypeRef.parameterNames "<T:Ship>".toList
    let scope : TypeScope := { language := .kotlin, settings := {}, parameters := names }
    parameterList [shipParameter] = "<T:Ship>".toList ∧ shipParameter.Tight ∧
      shipParameter.declared = "T" ∧ names = ["T:Ship"] ∧
      (TypeRef.resolve scope "T".toList).target = some "T" :=
  ⟨by decide, ⟨_, _, _, rfl, rfl, rfl⟩, by decide, by decide +kernel, by decide +kernel⟩

end ClassGraph
