import ClassGraph.Proofs.Text.Nesting
import ClassGraph.Source.TypeRef

/-!
# Normalized blanks

The normal form of a text is built from its words. It is also the result of one reading of the text
that squeezes the blanks in front of each word (`normalized_eq_squeezed`), in which all that counts
of the text before a place is the last character written and whether a blank has been read since.
So the normal form of two texts one behind the other is put together from those of the two, with at
most a blank between them (`exists_normalized_append`).
-/

namespace ClassGraph.TypeRef

open Text

/-- Whether no blank is to stand between a word that ends in `last` and one that begins with `c`. -/
def isTight (last : Option Char) (c : Char) : Bool :=
  last.isNone || last == some '<' || last == some '(' ||
    (last != some ',' && ['>', ',', ')'].any (some c == some ·))

/-- What stands between a word that ends in `last` and one that begins with `c`. -/
def gap (last : Option Char) (c : Char) : List Char := if isTight last c then [] else [' ']

/-- A text with its blanks squeezed, behind the character `last` and, when `pending` is set, a
blank. -/
def squeezed (last : Option Char) (pending : Bool) : List Char → List Char
  | [] => []
  | c :: cs =>
    if isSpace c then squeezed last true cs
    else (if pending then gap last c else []) ++ c :: squeezed (some c) false cs

variable {s t w : List Char} {c d : Char} {last : Option Char} {pending : Bool}

/-- A word goes behind a text with a gap where one is due. -/
theorem appendWord_cons (text word : List Char) (c : Char) :
    appendWord text (c :: word) = text ++ gap text.getLast? c ++ c :: word := by
  have hopen : appendWord text (c :: word) =
      if isTight text.getLast? c then text ++ c :: word else text ++ ' ' :: c :: word := rfl
  rw [hopen, gap]
  split_ifs <;> simp

/-- Words put behind a text are what squeezing makes of the text that they are read from. -/
theorem foldl_appendWord (s text : List Char) :
    (words s).foldl appendWord text = text ++ squeezed text.getLast? true s ∧
      (wordsFrom s).2.foldl appendWord (text ++ (wordsFrom s).1) =
        text ++ squeezed text.getLast? false s := by
  -- A blank leads from the second statement to the first, a word from both to the second.
  induction s generalizing text with
  | nil => simp [words, wordsFrom, squeezed]
  | cons c cs ih =>
    by_cases hc : isSpace c = true
    · have hwords : words (c :: cs) = words cs := by simp [words, wordsFrom, hc]
      have hfrom : wordsFrom (c :: cs) = ([], words cs) := by simp [words, wordsFrom, hc]
      rw [hwords, hfrom]
      simp only [List.append_nil, squeezed, if_pos hc]
      exact ⟨(ih text).1, (ih text).1⟩
    · have hwords : words (c :: cs) = (c :: (wordsFrom cs).1) :: (wordsFrom cs).2 := by
        simp [words, wordsFrom, hc]
      have hfrom : wordsFrom (c :: cs) = (c :: (wordsFrom cs).1, (wordsFrom cs).2) := by
        simp [wordsFrom, hc]
      rw [hwords, hfrom, List.foldl_cons, appendWord_cons]
      simp only [squeezed, if_neg hc]
      have hgap := (ih (text ++ gap text.getLast? c ++ [c])).2
      have hnext := (ih (text ++ [c])).2
      simp only [List.append_assoc, List.singleton_append, List.getLast?_append,
        List.getLast?_singleton, Option.some_or] at hgap hnext
      simp only [List.append_assoc, if_true, Bool.false_eq_true, if_false, List.nil_append]
      exact ⟨hgap, hnext⟩

/-- Where nothing has been written, it does not count whether a blank is due. -/
theorem squeezed_none (pending pending' : Bool) (s : List Char) :
    squeezed none pending s = squeezed none pending' s := by
  induction s generalizing pending pending' with
  | nil => rfl
  | cons c s ih =>
    have hgap : gap none c = [] := rfl
    simp only [squeezed, hgap, ite_self]

/-- The normal form of a text as one reading of it. -/
theorem normalized_eq_squeezed (pending : Bool) (s : List Char) :
    normalized s = squeezed none pending s := by
  rw [normalized, (foldl_appendWord s []).1, squeezed_none pending true]
  rfl

/-- A gap is a blank or nothing. -/
theorem gap_eq (last : Option Char) (c : Char) : gap last c = [] ∨ gap last c = [' '] := by
  unfold gap
  split_ifs <;> simp

/-- A gap is blank. -/
theorem blank_gap (last : Option Char) (c : Char) : Blank (gap last c) := by
  rcases gap_eq last c with hgap | hgap <;> rw [hgap]
  · exact blank_nil
  · exact blank_singleton

/-- A character that is no blank is written, with a gap in front of it when a blank was read. -/
theorem squeezed_cons (hc : isSpace c = false) (s : List Char) :
    squeezed last pending (c :: s) =
      (if pending then gap last c else []) ++ c :: squeezed (some c) false s := by
  rw [squeezed, if_neg (by simp [hc])]

/-- The gap in front of a text comes from its first character that is no blank. -/
theorem squeezed_true (hs : trimStart s = c :: t) :
    squeezed last true s = gap last c ++ normalized s := by
  rw [normalized_eq_squeezed true]
  induction s with
  | nil => cases hs
  | cons d s ih =>
    by_cases hd : isSpace d = true
    · rw [squeezed, if_pos hd, squeezed, if_pos hd]
      exact ih (by rwa [trimStart, List.dropWhile_cons_of_pos hd] at hs)
    · rw [trimStart, List.dropWhile_cons_of_neg hd] at hs
      cases hs
      rw [squeezed, if_neg hd, squeezed, if_neg hd]
      rfl

/-- What stands before a text only counts for the gap in front of it. -/
theorem exists_squeezed_eq (s : List Char) (last : Option Char) (pending : Bool) :
    ∃ w, Blank w ∧ squeezed last pending s = w ++ normalized s := by
  rw [normalized_eq_squeezed true]
  induction s generalizing pending with
  | nil => exact ⟨[], blank_nil, rfl⟩
  | cons c s ih =>
    by_cases hc : isSpace c = true
    · simp only [squeezed, if_pos hc]
      exact ih true
    · simp only [squeezed, if_neg hc]
      refine ⟨if pending then gap last c else [], ?_, rfl⟩
      split_ifs
      · exact blank_gap last c
      · exact blank_nil

/-- A text and one behind it are squeezed one after the other. -/
theorem exists_squeezed_append (s t : List Char) (last : Option Char) (pending : Bool) :
    ∃ last' pending',
      squeezed last pending (s ++ t) = squeezed last pending s ++ squeezed last' pending' t := by
  induction s generalizing last pending with
  | nil => exact ⟨last, pending, rfl⟩
  | cons c s ih =>
    by_cases hc : isSpace c = true
    · simp only [List.cons_append, squeezed, if_pos hc]
      exact ih last true
    · obtain ⟨last', pending', h⟩ := ih (some c) false
      refine ⟨last', pending', ?_⟩
      simp only [List.cons_append, squeezed, if_neg hc, h, List.append_assoc]

/-- Behind a word there is no gap as long as no blank is read. -/
theorem squeezed_word (hword : ∀ c ∈ s, isSpace c = false) (last : Option Char) (t : List Char) :
    squeezed last false (s ++ t) = s ++ squeezed (s.getLast?.or last) false t := by
  induction s generalizing last with
  | nil => rfl
  | cons c s ih =>
    rw [List.forall_mem_cons] at hword
    rw [List.cons_append, squeezed_cons hword.1, ih hword.2]
    cases s <;> simp [List.getLast?_cons]

/-- Blanks leave a gap due and nothing else. -/
theorem squeezed_blank (hw : Blank w) (hne : w ≠ []) (t : List Char) :
    squeezed last pending (w ++ t) = squeezed last true t := by
  induction w generalizing pending with
  | nil => exact absurd rfl hne
  | cons c w ih =>
    rw [Blank, List.forall_mem_cons] at hw
    rw [List.cons_append, squeezed, if_pos hw.1]
    rcases eq_or_ne w [] with rfl | hw'
    · rfl
    · exact ih hw.2 hw'

/-- Squeezing leaves all characters but the blanks. -/
theorem filter_squeezed (last : Option Char) (pending : Bool) (s : List Char) :
    (squeezed last pending s).filter (!isSpace ·) = s.filter (!isSpace ·) := by
  induction s generalizing last pending with
  | nil => rfl
  | cons c s ih =>
    by_cases hc : isSpace c = true
    · rw [squeezed, if_pos hc, ih, List.filter_cons_of_neg (by simp [hc])]
    · have hgap : ((if pending then gap last c else []).filter (!isSpace ·)) = [] := by
        rw [List.filter_eq_nil_iff]
        intro d hd
        split_ifs at hd
        · simp [blank_gap last c d hd]
        · cases hd
      rw [squeezed, if_neg hc, List.filter_append, hgap, List.nil_append,
        List.filter_cons_of_pos (by simp [hc]), List.filter_cons_of_pos (by simp [hc]), ih]

/-- Squeezed blanks are not squeezed any further: each gap is one blank, in front of a character
that takes it. -/
theorem squeezed_squeezed (last : Option Char) (pending : Bool) (s : List Char) :
    squeezed last false (squeezed last pending s) = squeezed last pending s := by
  induction s generalizing last pending with
  | nil => rfl
  | cons c s ih =>
    by_cases hc : isSpace c = true
    · rw [squeezed, if_pos hc]
      exact ih last true
    · have hword : isSpace c = false := by simpa using hc
      have hbehind (pending : Bool) : squeezed last pending (c :: squeezed (some c) false s) =
          (if pending then gap last c else []) ++ c :: squeezed (some c) false s := by
        rw [squeezed_cons hword, ih]
      rw [squeezed_cons hword]
      cases pending with
      | false => exact hbehind false
      | true =>
        rcases gap_eq last c with hgap | hgap
        · simpa [hgap] using hbehind false
        · have hread : squeezed last false (' ' :: c :: squeezed (some c) false s) =
              squeezed last true (c :: squeezed (some c) false s) := if_pos rfl
          simpa [hgap] using hread.trans (hbehind true)

/-- What is squeezed does not end with a blank. -/
theorem not_isSpace_of_mem_getLast?_squeezed (hc : c ∈ (squeezed last pending s).getLast?) :
    isSpace c = false := by
  induction s generalizing last pending with
  | nil => cases hc
  | cons d s ih =>
    by_cases hd : isSpace d = true
    · rw [squeezed, if_pos hd] at hc
      exact ih hc
    · rw [squeezed, if_neg hd, List.getLast?_append, List.getLast?_cons] at hc
      cases hlast : (squeezed (some d) false s).getLast? with
      | none =>
        rw [hlast] at hc
        obtain rfl : d = c := Option.some.inj hc
        simpa using hd
      | some e =>
        rw [hlast] at hc
        obtain rfl : e = c := Option.some.inj hc
        exact ih hlast

/-! ## Nesting -/

/-- Squeezing changes nothing in the nesting of a text without dashes. -/
theorem unsplit_squeezed {previous previous' : Option Char} {depth : Int} (hdash : '-' ∉ s)
    (hprevious : previous ≠ some '-') (hprevious' : Apart previous' (squeezed last pending s))
    (h : Unsplit ',' previous depth s) :
    Unsplit ',' previous' depth (squeezed last pending s) ∧
      depthThrough previous' depth (squeezed last pending s) = depthThrough previous depth s := by
  induction s generalizing last pending previous previous' depth with
  | nil => exact ⟨trivial, rfl⟩
  | cons c s ih =>
    rw [List.mem_cons, not_or] at hdash
    have hc : some c ≠ some '-' := fun h => hdash.1 (Option.some.inj h).symm
    obtain ⟨hcomma, hrest⟩ := h
    by_cases hspace : isSpace c = true
    · rw [squeezed, if_pos hspace] at hprevious' ⊢
      rw [depthAfter_of_isSpace hspace] at hrest
      rw [depthThrough, depthAfter_of_isSpace hspace]
      exact ih hdash.2 hc hprevious' hrest
    · rw [squeezed_cons (by simpa using hspace)] at hprevious' ⊢
      have hbehind := ih hdash.2 hc (apart_of_ne hc (squeezed (some c) false s)) hrest
      have hfront : (if pending then gap last c else []) = [] ∨
          (if pending then gap last c else []) = [' '] := by
        split_ifs
        · exact gap_eq last c
        · exact .inl rfl
      -- In front of `c` there may be a blank now, or none any more; neither is a dash.
      rcases hfront with hfront | hfront
      · rw [hfront] at hprevious' ⊢
        have hdepth : depthAfter false previous' depth c = depthAfter false previous depth c :=
          depthAfter_congr hprevious' (apart_of_ne hprevious _)
        rw [List.nil_append, Unsplit, depthThrough, depthThrough, hdepth]
        exact ⟨⟨hcomma, hbehind.1⟩, hbehind.2⟩
      · have hblank : depthAfter false previous' depth ' ' = depth := depthAfter_of_isSpace rfl
        have hdepth : depthAfter false (some ' ') depth c = depthAfter false previous depth c :=
          depthAfter_congr (apart_of_ne (by simp) [c]) (apart_of_ne hprevious [c])
        rw [hfront, List.singleton_append, Unsplit, depthThrough, hblank, Unsplit, depthThrough,
          depthThrough, hdepth]
        exact ⟨⟨by simp, hcomma, hbehind.1⟩, hbehind.2⟩

/-! ## Normal forms -/

/-- Normal forms keep all characters but the blanks. -/
theorem filter_normalized (s : List Char) :
    (normalized s).filter (!isSpace ·) = s.filter (!isSpace ·) := by
  rw [normalized_eq_squeezed true, filter_squeezed]

/-- A text and its normal form have the same characters that are no blanks. -/
theorem mem_normalized_iff (hc : isSpace c = false) : c ∈ normalized s ↔ c ∈ s := by
  have hmem (t : List Char) : c ∈ t ↔ c ∈ t.filter (!isSpace ·) := by
    rw [List.mem_filter, hc]
    simp
  rw [hmem, filter_normalized, ← hmem]

/-- Only a text of blanks has a normal form of blanks. -/
theorem blank_normalized_iff : Blank (normalized s) ↔ Blank s := by
  have hfilter (t : List Char) : Blank t ↔ t.filter (!isSpace ·) = [] := by
    simp [Blank, List.filter_eq_nil_iff]
  rw [hfilter, hfilter, filter_normalized]

/-- A normal form is its own normal form. -/
theorem normalized_normalized (s : List Char) : normalized (normalized s) = normalized s := by
  rw [normalized_eq_squeezed false s, normalized_eq_squeezed false, squeezed_squeezed]

/-- The normal form begins with the first character that is no blank. -/
theorem exists_normalized_cons (hc : isSpace c = false) (s : List Char) :
    ∃ rest, normalized (c :: s) = c :: rest := by
  rw [normalized_eq_squeezed false, squeezed_cons hc]
  exact ⟨_, rfl⟩

/-- The normal form of a text and one behind it. -/
theorem exists_normalized_append (s t : List Char) :
    ∃ w, Blank w ∧ normalized (s ++ t) = normalized s ++ w ++ normalized t := by
  obtain ⟨last, pending, happend⟩ := exists_squeezed_append s t none true
  obtain ⟨w, hw, heq⟩ := exists_squeezed_eq t last pending
  refine ⟨w, hw, ?_⟩
  rw [normalized_eq_squeezed true, happend, heq, ← normalized_eq_squeezed, List.append_assoc]

/-- A word in a text stays in its normal form, since no blank is put into it. -/
theorem infix_normalized (hword : ∀ c ∈ w, isSpace c = false) (hs : w <:+: s) :
    w <:+: normalized s := by
  obtain ⟨front, back, rfl⟩ := hs
  obtain ⟨g, -, happend⟩ := exists_normalized_append front (w ++ back)
  have hbehind : normalized (w ++ back) = w ++ squeezed (w.getLast?.or none) false back := by
    rw [normalized_eq_squeezed false, squeezed_word hword]
  rw [List.append_assoc, happend, hbehind]
  exact ⟨normalized front ++ g, _, by rw [List.append_assoc _ w]⟩

/-- A word is its own normal form. -/
theorem normalized_word (hword : ∀ c ∈ s, isSpace c = false) : normalized s = s := by
  have hsqueezed := squeezed_word hword none []
  rwa [List.append_nil, squeezed, List.append_nil, ← normalized_eq_squeezed] at hsqueezed

/-- Blanks in front of a text do not count for its normal form. -/
theorem normalized_append_left (hw : Blank w) (s : List Char) :
    normalized (w ++ s) = normalized s := by
  rcases eq_or_ne w [] with rfl | hne
  · rfl
  · rw [normalized_eq_squeezed true, squeezed_blank hw hne, ← normalized_eq_squeezed]

/-- The normal form of blanks is empty. -/
theorem normalized_of_blank (hw : Blank w) : normalized w = [] := by
  have hnil := normalized_append_left hw []
  rwa [List.append_nil] at hnil

/-- Trimming the start of a text does not change its normal form. -/
theorem normalized_trimStart (s : List Char) : normalized (trimStart s) = normalized s := by
  have hsplit : s.takeWhile isSpace ++ trimStart s = s := List.takeWhile_append_dropWhile
  conv_rhs => rw [← hsplit, normalized_append_left fun c hc => List.mem_takeWhile_imp hc]

/-- No blank stands at the ends of a normal form. -/
theorem trim_normalized (s : List Char) : trim (normalized s) = normalized s := by
  have hstart : trimStart (normalized s) = normalized s := by
    rw [← normalized_trimStart]
    cases hs : trimStart s with
    | nil => rfl
    | cons c rest =>
      have hc : isSpace c = false := not_isSpace_of_mem_head?_trimStart (s := s) (by rw [hs]; rfl)
      obtain ⟨rest', hnormal⟩ := exists_normalized_cons hc rest
      rw [hnormal, trimStart_cons hc]
  rw [trim, hstart, normalized_eq_squeezed true]
  exact dropEndWhile_eq_self fun c hc => not_isSpace_of_mem_getLast?_squeezed hc

/-- Exactly one blank is left between a word and what follows blanks behind it, as long as neither
of the two takes blanks away. -/
theorem normalized_word_append (hword : ∀ c ∈ s, isSpace c = false) (hlast : s.getLast? = some d)
    (hd : d ∉ ['<', '(']) (hw : Blank w) (hne : w ≠ []) {t r : List Char}
    (ht : trimStart t = c :: r) (hc : c ∉ ['>', ',', ')']) :
    normalized (s ++ w ++ t) = s ++ ' ' :: normalized t := by
  have hgap : gap (some d) c = [' '] := by
    simp only [List.mem_cons, List.not_mem_nil, or_false, not_or] at hd hc
    simp [gap, isTight, hd, hc]
  rw [normalized_eq_squeezed false, List.append_assoc, squeezed_word hword, hlast, Option.some_or,
    squeezed_blank hw hne, squeezed_true ht, hgap]
  rfl

/-- The normal form of a nested text without dashes is nested. -/
theorem keepsDepth_normalized {least : Int} (h : KeepsDepth least s) (hdash : '-' ∉ s) :
    KeepsDepth least (normalized s) := by
  intro depth previous hdepth hprevious
  obtain ⟨hunsplit, hthrough⟩ := h depth none hdepth (apart_of_ne (by simp) s)
  rw [normalized_eq_squeezed true] at hprevious ⊢
  obtain ⟨hunsplit', hthrough'⟩ :=
    unsplit_squeezed hdash (by simp : none ≠ some '-') hprevious hunsplit
  exact ⟨hunsplit', hthrough'.trans hthrough⟩

end ClassGraph.TypeRef
