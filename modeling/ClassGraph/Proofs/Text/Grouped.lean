import ClassGraph.Proofs.Text.Bracketed

/-!
# Grouped texts

The text of a property is cut at the first mark that stands outside of all brackets, curly ones
included. A text is grouped when its brackets close each other and certain marks stand inside of
them only (`Grouped`). A cut at such a mark passes over a grouped text (`cutTopLevel?_append`), and
finds the mark behind it (`cutTopLevel?_mark`). As with `Bracketed`, the relation is about the text
alone; unlike there, dashes may stand anywhere.
-/

namespace ClassGraph.Text

/-- The opening brackets of declarations, each with the closing one that belongs to it. -/
def groupPairs : List (Char × Char) := bracketPairs ++ [('{', '}')]

/-- The characters that a cut looks at besides its mark. -/
def groupChars : List Char := ['<', '(', '[', '{', '>', ')', ']', '}', '-']

/-- A text in which brackets close each other and no mark stands outside of them. A bracket `>` that
completes an arrow closes nothing. -/
inductive Grouped : List Char → List Char → Prop
  | nil {marks : List Char} : Grouped marks []
  | plain {marks : List Char} {c : Char} {s : List Char} (hc : c ∉ groupChars) (hmark : c ∉ marks)
    (hs : Grouped marks s) : Grouped marks (c :: s)
  | dash {marks : List Char} {c : Char} {s : List Char} (hc : c ≠ '>')
    (hs : Grouped marks (c :: s)) : Grouped marks ('-' :: c :: s)
  | arrow {marks s : List Char} (hs : Grouped marks s) : Grouped marks ('-' :: '>' :: s)
  | group {opening closing : Char} {marks s t : List Char}
    (hpair : (opening, closing) ∈ groupPairs) (hs : Grouped [] s) (ht : Grouped marks t) :
    Grouped marks (opening :: s ++ closing :: t)

variable {marks marks' s t : List Char} {opening closing c separator : Char} {depth : Int}
  {previous previous' : Option Char}

/-! ## Grouped texts -/

/-- A text without brackets and marks has no mark outside of brackets. -/
theorem grouped_of_forall (h : ∀ c ∈ s, c ∉ groupChars ∧ c ∉ marks) : Grouped marks s := by
  induction s with
  | nil => exact .nil
  | cons c s ih =>
    rw [List.forall_mem_cons] at h
    exact .plain h.1.1 h.1.2 (ih h.2)

/-- The characters of dotted names and blanks are neither brackets nor marks of a declaration. -/
theorem grouped_of_plain (hs : ∀ c ∈ s, isNameChar c = true ∨ isSpace c = true ∨ c = '.')
    (hmarks : ∀ c ∈ marks, c ∈ ['=', ':']) : Grouped marks s := by
  have hother : ∀ d ∈ groupChars ++ ['=', ':'],
      ¬ (isNameChar d = true ∨ isSpace d = true ∨ d = '.') := forall_mem_of_all (by decide)
  refine grouped_of_forall fun c hc => ⟨fun hmem => ?_, fun hmem => ?_⟩
  · exact hother c (List.mem_append_left _ hmem) (hs c hc)
  · exact hother c (List.mem_append_right _ (hmarks c hmem)) (hs c hc)

/-- Two texts without marks outside of their brackets are one such text. -/
theorem Grouped.append (hs : Grouped marks s) (ht : Grouped marks t) : Grouped marks (s ++ t) := by
  induction hs with
  | nil => exact ht
  | plain hc hmark _ ih => exact .plain hc hmark (ih ht)
  | dash hc _ ih => exact .dash hc (ih ht)
  | arrow _ ih => exact .arrow (ih ht)
  | @group opening closing marks s t' hpair hs _ _ ih =>
    have happend : opening :: s ++ closing :: t' ++ t = opening :: s ++ closing :: (t' ++ t) := by
      simp
    rw [happend]
    exact .group hpair hs (ih ht)

/-- A text without some marks outside of its brackets is without fewer. -/
theorem Grouped.mono (h : Grouped marks s) (hmarks : ∀ c ∈ marks', c ∈ marks) :
    Grouped marks' s := by
  induction h with
  | nil => exact .nil
  | plain hc hmark _ ih => exact .plain hc (fun hmem => hmark (hmarks _ hmem)) (ih hmarks)
  | dash hc _ ih => exact .dash hc (ih hmarks)
  | arrow _ ih => exact .arrow (ih hmarks)
  | group hpair hs _ _ ih => exact .group hpair hs (ih hmarks)

/-- Marks may stand between brackets. -/
theorem Grouped.enclose (hpair : (opening, closing) ∈ groupPairs) (hs : Grouped [] s) :
    Grouped marks (opening :: s ++ [closing]) :=
  .group hpair hs .nil

/-- Types are grouped, since curly brackets do not occur in them. -/
theorem Bracketed.grouped {commas : Bool} (h : Bracketed commas s)
    (hcurly : ∀ c ∈ s, c ∉ ['{', '}']) : Grouped [] s := by
  induction h with
  | nil => exact .nil
  | @plain _ c s hc _ ih =>
    rw [List.forall_mem_cons] at hcurly
    refine .plain ?_ List.not_mem_nil (ih hcurly.2)
    have hcurly := hcurly.1
    simp only [groupChars, List.mem_cons, List.not_mem_nil, or_false, not_or] at hc hcurly ⊢
    tauto
  | comma _ ih =>
    rw [List.forall_mem_cons] at hcurly
    exact .plain (by decide) List.not_mem_nil (ih hcurly.2)
  | arrow _ ih =>
    rw [List.forall_mem_cons, List.forall_mem_cons] at hcurly
    exact .arrow (ih hcurly.2.2)
  | group hpair _ _ ihs iht =>
    rw [List.forall_mem_append, List.forall_mem_cons, List.forall_mem_cons] at hcurly
    exact .group (List.mem_append_left _ hpair) (ihs hcurly.1.2) (iht hcurly.2.2)

/-- Brackets that make a pair are an opening and a closing one. -/
theorem brackets_of_groupPair (hpair : (opening, closing) ∈ groupPairs) :
    opening ∈ ['<', '(', '[', '{'] ∧ closing ∈ ['>', ')', ']', '}'] := by
  simp only [groupPairs, bracketPairs, List.cons_append, List.nil_append, List.mem_cons,
    Prod.mk.injEq, List.not_mem_nil, or_false] at hpair
  rcases hpair with ⟨rfl, rfl⟩ | ⟨rfl, rfl⟩ | ⟨rfl, rfl⟩ | ⟨rfl, rfl⟩ <;> decide

/-- Brackets are no separators, and complete no arrow. -/
theorem groupChars_of_groupPair (hpair : (opening, closing) ∈ groupPairs) :
    (opening ∈ groupChars ∧ opening ≠ '-') ∧ closing ∈ groupChars ∧ closing ≠ '-' := by
  have hopens : ∀ c ∈ ['<', '(', '[', '{'], c ∈ groupChars ∧ c ≠ '-' :=
    forall_mem_of_all (by decide)
  have hcloses : ∀ c ∈ ['>', ')', ']', '}'], c ∈ groupChars ∧ c ≠ '-' :=
    forall_mem_of_all (by decide)
  obtain ⟨hopening, hclosing⟩ := brackets_of_groupPair hpair
  exact ⟨hopens opening hopening, hcloses closing hclosing⟩

/-- A grouped text does not end in a dash, so that no bracket behind it completes an arrow. -/
theorem Grouped.getLast?_ne (h : Grouped marks s) : s.getLast? ≠ some '-' := by
  induction h with
  | nil => simp
  | @plain _ c s hc _ _ ih =>
    rw [List.getLast?_cons]
    cases hlast : s.getLast? with
    | none =>
      rintro ⟨rfl⟩
      exact hc (by decide)
    | some d => simpa [hlast] using ih
  | dash _ _ ih => rwa [List.getLast?_cons_cons]
  | @arrow _ s _ ih => cases hlast : s.getLast? <;> simp_all [List.getLast?_cons]
  | @group opening closing _ s t hpair _ _ _ ih =>
    rw [List.getLast?_append, List.getLast?_cons]
    cases hlast : t.getLast? with
    | none => simpa using (groupChars_of_groupPair hpair).2.2
    | some d => simpa [hlast] using ih

/-- A text whose brackets close each other ends with no dash that an arrow could go on. -/
theorem Grouped.getLast?_or_ne (h : Grouped marks s) (hprevious : previous ≠ some '-') :
    s.getLast?.or previous ≠ some '-' := by
  cases hlast : s.getLast? with
  | none => simpa using hprevious
  | some d => simpa [hlast] using h.getLast?_ne

/-! ## Readings -/

namespace cutTopLevel?

/-- Reading on over a character at which nothing is cut. -/
theorem go_cons (h : ¬ (c = separator ∧ depth = 0)) (s : List Char) :
    go separator depth previous (c :: s) =
      (go separator (depthAfter true previous depth c) (some c) s).map fun cut =>
        (c :: cut.1, cut.2) := by
  rw [go, if_neg fun hcut => h ⟨hcut.1, hcut.2.1⟩]

end cutTopLevel?

/-- A character that is no bracket leaves the depth as it is. -/
theorem depthAfter_of_notMem (hc : c ∉ groupChars) : depthAfter true previous depth c = depth := by
  simp only [groupChars, List.mem_cons, List.not_mem_nil, or_false, not_or] at hc
  simp [depthAfter, hc]

/-- An opening bracket makes the depth greater by one. -/
theorem depthAfter_opening (hopening : opening ∈ ['<', '(', '[', '{']) :
    depthAfter true previous depth opening = depth + 1 := by
  simp only [List.mem_cons, List.not_mem_nil, or_false] at hopening
  rw [depthAfter, if_pos (by tauto)]

/-- A closing bracket makes the depth less by one, when it completes no arrow. -/
theorem depthAfter_closing (hclosing : closing ∈ ['>', ')', ']', '}'])
    (hprevious : previous ≠ some '-') : depthAfter true previous depth closing = depth - 1 := by
  simp only [List.mem_cons, List.not_mem_nil, or_false] at hclosing
  rcases hclosing with rfl | rfl | rfl | rfl <;> simp [depthAfter, hprevious]

/-- The end of an arrow leaves the depth as it is. -/
theorem depthAfter_arrow : depthAfter true (some '-') depth '>' = depth := by simp [depthAfter]

/-- Reading a grouped text, in brackets or with the separator among its marks, cuts nothing and
comes back to the depth at which it began. -/
theorem Grouped.go_append (h : Grouped marks s) (hsep : separator ∉ groupChars)
    (hdepth : 0 ≤ depth) (hmark : depth = 0 → separator ∈ marks) (hapart : Apart previous s)
    (t : List Char) :
    cutTopLevel?.go separator depth previous (s ++ t) =
      (cutTopLevel?.go separator depth (s.getLast?.or previous) t).map fun cut =>
        (s ++ cut.1, cut.2) := by
  -- No character of a bracket or an arrow is the separator.
  have hbracket : ∀ c ∈ groupChars, ∀ d : Int, ¬ (c = separator ∧ d = 0) := by
    rintro c hc d ⟨rfl, -⟩
    exact hsep hc
  induction h generalizing depth previous t with
  | nil => simp
  | @plain marks c s hc hnone _ ih =>
    have hgo : ¬ (c = separator ∧ depth = 0) := by
      rintro ⟨rfl, hzero⟩
      exact hnone (hmark hzero)
    have hdash : some c ≠ some '-' := by
      rintro ⟨rfl⟩
      exact hc (by decide)
    rw [List.cons_append, cutTopLevel?.go_cons hgo, depthAfter_of_notMem hc,
      ih hdepth hmark (apart_of_ne hdash s) t, Option.map_map, getLast?_cons_or]
    rfl
  | @dash marks c s hc _ ih =>
    -- The character behind the dash does not complete an arrow.
    have hdash : depthAfter true previous depth '-' = depth := by simp [depthAfter]
    have hbehind : Apart (some '-') (c :: s) := fun _ h => hc (Option.some.inj h)
    rw [List.cons_append, cutTopLevel?.go_cons (hbracket _ (by decide) _), hdash,
      ih hdepth hmark hbehind t, Option.map_map, getLast?_cons_or '-']
    rfl
  | @arrow marks s _ ih =>
    have hdash : depthAfter true previous depth '-' = depth := by simp [depthAfter]
    rw [List.cons_append, cutTopLevel?.go_cons (hbracket _ (by decide) _), hdash, List.cons_append,
      cutTopLevel?.go_cons (hbracket _ (by decide) _), depthAfter_arrow,
      ih hdepth hmark (apart_of_ne (by decide) s) t, Option.map_map, Option.map_map,
      getLast?_cons_or, getLast?_cons_or]
    rfl
  | @group opening closing marks s t' hpair hs _ ihs iht =>
    obtain ⟨hopening, hclosing⟩ := brackets_of_groupPair hpair
    obtain ⟨⟨hopens, hopening'⟩, hcloses, hclosing'⟩ := groupChars_of_groupPair hpair
    have hinside : some opening ≠ some '-' := fun h => hopening' (Option.some.inj h)
    have hbehind : some closing ≠ some '-' := fun h => hclosing' (Option.some.inj h)
    have hlast : s.getLast?.or (some opening) ≠ some '-' := hs.getLast?_or_ne hinside
    have htext : opening :: s ++ closing :: t' ++ t = opening :: (s ++ closing :: (t' ++ t)) := by
      simp
    have hend : (opening :: s ++ closing :: t').getLast?.or previous =
        t'.getLast?.or (some closing) := by
      rw [List.cons_append, getLast?_cons_or, List.getLast?_append, Option.or_assoc,
        getLast?_cons_or]
    rw [htext, cutTopLevel?.go_cons (hbracket _ hopens _), depthAfter_opening hopening,
      ihs (by omega) (by omega) (apart_of_ne hinside s) _,
      cutTopLevel?.go_cons (hbracket _ hcloses _), depthAfter_closing hclosing hlast,
      Int.add_sub_cancel,
      iht hdepth hmark (apart_of_ne hbehind t') t, hend, Option.map_map, Option.map_map,
      Option.map_map]
    congr 1
    funext cut
    simp

/-! ## Cuts -/

/-- Behind the character neither an arrow nor a comparison goes on. -/
def Neutral (previous : Option Char) : Prop := ∀ c ∈ previous, c ∉ ['-', '!', '<', '>', '=']

/-- At the beginning of a text no arrow and no comparison goes on. -/
theorem neutral_none : Neutral none := fun _ hc => nomatch hc

/-- Behind a character that is in no arrow and no comparison, none goes on. -/
theorem neutral_some (hc : c ∉ ['-', '!', '<', '>', '=']) : Neutral (some c) := by
  rintro d ⟨rfl⟩
  exact hc

/-- Behind a character of names no arrow and no comparison goes on. -/
theorem neutral_of_isNameChar (hc : isNameChar c = true) : Neutral (some c) := by
  have hplain : ∀ d ∈ ['-', '!', '<', '>', '='], ¬ isNameChar d = true :=
    forall_mem_of_all (by decide)
  exact neutral_some fun hmem => hplain c hmem hc

/-- Behind a blank no arrow and no comparison goes on. -/
theorem neutral_of_isSpace (hc : isSpace c = true) : Neutral (some c) := by
  have hplain : ∀ d ∈ ['-', '!', '<', '>', '='], ¬ isSpace d = true :=
    forall_mem_of_all (by decide)
  exact neutral_some fun hmem => hplain c hmem hc

/-- A character behind which nothing goes on is no dash. -/
theorem Neutral.ne_dash (h : Neutral previous) : previous ≠ some '-' := by
  rintro rfl
  exact h '-' rfl (by decide)

/-- Where nothing goes on, only an equals sign makes a comparison. -/
theorem Neutral.isComparison (h : Neutral previous) (s : List Char) :
    isComparison previous s = (s.head? == some '=') := by
  have hne : ∀ c ∈ ['!', '<', '>', '='], previous ≠ some c := by
    rintro c hc rfl
    exact h c rfl (List.mem_cons_of_mem '-' hc)
  simp [Text.isComparison, hne '!' (by decide), hne '<' (by decide), hne '>' (by decide),
    hne '=' (by decide)]

/-- What stands in front of a text does not count when neither an arrow nor a comparison goes on
behind it. -/
theorem go_congr (h : Neutral previous) (h' : Neutral previous') (s : List Char) :
    cutTopLevel?.go separator depth previous s = cutTopLevel?.go separator depth previous' s := by
  cases s with
  | nil => rfl
  | cons c s =>
    have hdepth : depthAfter true previous depth c = depthAfter true previous' depth c := by
      simp [depthAfter, h.ne_dash, h'.ne_dash]
    rw [cutTopLevel?.go, cutTopLevel?.go, h.isComparison, h'.isComparison, hdepth]

/-- A cut reads on behind a grouped text. -/
theorem Grouped.cutTopLevel?_append (hs : Grouped [separator] s) (hsep : separator ∉ groupChars)
    (t : List Char) :
    cutTopLevel? separator (s ++ t) =
      (cutTopLevel?.go separator 0 s.getLast? t).map fun cut => (s ++ cut.1, cut.2) := by
  rw [cutTopLevel?, hs.go_append hsep (Int.le_refl 0) (fun _ => List.mem_singleton_self _)
    (apart_of_ne (by simp) s), Option.or_none]

/-- A cut passes over a grouped text. -/
theorem cutTopLevel?_append (hs : Grouped [separator] s) (hsep : separator ∉ groupChars)
    (hlast : Neutral s.getLast?) (t : List Char) :
    cutTopLevel? separator (s ++ t) =
      (cutTopLevel? separator t).map fun cut => (s ++ cut.1, cut.2) := by
  rw [hs.cutTopLevel?_append hsep, go_congr hlast neutral_none, cutTopLevel?]

/-- A cut finds the separator behind a grouped text. -/
theorem cutTopLevel?_mark (hs : Grouped [separator] s) (hsep : separator ∉ groupChars)
    (hcut : separator = '=' → isComparison s.getLast? t = false) :
    cutTopLevel? separator (s ++ separator :: t) = some (s, t) := by
  have hhere : separator = separator ∧ (0 : Int) = 0 ∧
      ¬ (separator = '=' ∧ isComparison s.getLast? t = true) := by
    refine ⟨rfl, rfl, fun h => ?_⟩
    rw [hcut h.1] at h
    exact absurd h.2 Bool.false_ne_true
  rw [hs.cutTopLevel?_append hsep, cutTopLevel?.go, if_pos hhere]
  simp

/-- In a grouped text nothing is cut. -/
theorem cutTopLevel?_eq_none (hs : Grouped [separator] s) (hsep : separator ∉ groupChars) :
    cutTopLevel? separator s = none := by
  have hcut := hs.cutTopLevel?_append hsep []
  rwa [List.append_nil] at hcut

/-- Where nothing is cut in a text, nothing is cut in its beginnings. -/
theorem cutTopLevel?_eq_none_of_append (hne : separator ≠ '=')
    (h : cutTopLevel? separator (s ++ t) = none) : cutTopLevel? separator s = none := by
  rw [cutTopLevel?] at h ⊢
  generalize (0 : Int) = depth at h ⊢
  generalize (none : Option Char) = previous at h ⊢
  induction s generalizing depth previous with
  | nil => rfl
  | cons c s ih =>
    rw [List.cons_append, cutTopLevel?.go] at h
    rw [cutTopLevel?.go]
    by_cases hcut : c = separator ∧ depth = 0
    · rw [if_pos ⟨hcut.1, hcut.2, fun h => hne h.1⟩] at h
      cases h
    · rw [if_neg fun h => hcut ⟨h.1, h.2.1⟩] at h ⊢
      rw [Option.map_eq_none_iff] at h ⊢
      exact ih _ _ h

/-- The two sides of a cut. -/
theorem append_of_cutTopLevel? {cut : List Char × List Char}
    (h : cutTopLevel? separator s = some cut) : cut.1 ++ separator :: cut.2 = s := by
  rw [cutTopLevel?] at h
  generalize (0 : Int) = depth at h
  generalize (none : Option Char) = previous at h
  induction s generalizing depth previous cut with
  | nil => cases h
  | cons c s ih =>
    rw [cutTopLevel?.go] at h
    split_ifs at h with hcut
    · obtain rfl := Option.some.inj h
      simp [hcut.1]
    · obtain ⟨cut', hcut', rfl⟩ := Option.map_eq_some_iff.mp h
      rw [List.cons_append, ih _ _ hcut']

end ClassGraph.Text
