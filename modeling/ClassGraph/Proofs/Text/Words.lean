import ClassGraph.Proofs.Text.Cutting

/-!
# Words

The words of a text are read from its front: blanks in front of a text make no difference
(`words_append_left`), and a text that begins with no blank begins with a word, which goes on until
the first blank (`words_word_append`). No word goes on behind a blank (`words_append_cons`).
-/

namespace ClassGraph.Text

variable {s w : List Char} {c : Char}

/-- A blank in front of a text adds no word. -/
theorem words_cons_of_isSpace (hc : isSpace c = true) (s : List Char) :
    words (c :: s) = words s := by
  simp [words, wordsFrom, hc]

/-- The first word of a text goes up to its first blank, and the other words are those behind. -/
theorem wordsFrom_eq (s : List Char) :
    wordsFrom s = (s.takeWhile (!isSpace ·), words (s.dropWhile (!isSpace ·))) := by
  induction s with
  | nil => rfl
  | cons c s ih =>
    by_cases hc : isSpace c = true
    · have hfrom : wordsFrom (c :: s) = ([], words s) := by simp [words, wordsFrom, hc]
      rw [hfrom, List.takeWhile_cons_of_neg (by simp [hc]),
        List.dropWhile_cons_of_neg (by simp [hc]), words_cons_of_isSpace hc]
    · have hfrom : wordsFrom (c :: s) = (c :: (wordsFrom s).1, (wordsFrom s).2) := by
        simp [wordsFrom, hc]
      rw [hfrom, ih, List.takeWhile_cons_of_pos (by simp [hc]),
        List.dropWhile_cons_of_pos (by simp [hc])]

/-- Blanks in front of a text add no words. -/
theorem words_append_left (hw : Blank w) (s : List Char) : words (w ++ s) = words s := by
  induction w with
  | nil => rfl
  | cons c w ih =>
    rw [Blank, List.forall_mem_cons] at hw
    rw [List.cons_append, words_cons_of_isSpace hw.1, ih hw.2]

/-- Blanks behind a text add nothing to its words. -/
theorem wordsFrom_append_right (s : List Char) (hw : Blank w) :
    wordsFrom (s ++ w) = wordsFrom s := by
  induction s with
  | nil =>
    have hwords : words w = words [] := by simpa using words_append_left hw []
    cases w with
    | nil => rfl
    | cons c w =>
      have hc : isSpace c = true := hw c List.mem_cons_self
      rw [List.nil_append, wordsFrom_eq, List.takeWhile_cons_of_neg (by simp [hc]),
        List.dropWhile_cons_of_neg (by simp [hc]), hwords]
      rfl
  | cons c s ih => rw [List.cons_append, wordsFrom, ih, wordsFrom]

/-- Blanks around a text do not count for its words. -/
theorem words_trim (s : List Char) : words (trim s) = words s := by
  obtain ⟨w, w', hw, hw', hs⟩ := exists_trim s
  conv_rhs => rw [hs, List.append_assoc, words_append_left hw]
  rw [words, words, wordsFrom_append_right _ hw']

/-- A text begins with a word that goes on until the first blank behind it. -/
theorem words_word_append (hs : ∀ c ∈ s, isSpace c = false) (hne : s ≠ []) (t : List Char) :
    words (s ++ t) = (s ++ t.takeWhile (!isSpace ·)) :: words (t.dropWhile (!isSpace ·)) := by
  have hall : ∀ c ∈ s, (!isSpace c) = true := fun c hc => by simp [hs c hc]
  rw [words, wordsFrom_eq, List.takeWhile_append_of_pos hall, List.dropWhile_append_of_pos hall]
  simp [hne]

/-- A word ends where blanks stand behind it. -/
theorem words_word_gap (hs : ∀ c ∈ s, isSpace c = false) (hne : s ≠ []) (hw : Blank w)
    (hgap : w ≠ []) (t : List Char) : words (s ++ (w ++ t)) = s :: words t := by
  obtain ⟨c, w, rfl⟩ := List.exists_cons_of_ne_nil hgap
  have hc : isSpace c = true := hw c List.mem_cons_self
  rw [words_word_append hs hne, List.cons_append, List.takeWhile_cons_of_neg (by simp [hc]),
    List.dropWhile_cons_of_neg (by simp [hc]), ← List.cons_append, words_append_left hw,
    List.append_nil]

/-- A text without blanks is a word. -/
theorem words_of_forall (hs : ∀ c ∈ s, isSpace c = false) (hne : s ≠ []) : words s = [s] := by
  have hword := words_word_append hs hne []
  rwa [List.append_nil, List.takeWhile_nil, List.append_nil, List.dropWhile_nil] at hword

/-- The words on both sides of a blank. -/
theorem words_append_cons (hc : isSpace c = true) (s t : List Char) :
    words (s ++ c :: t) = words s ++ words t := by
  have hfrom : wordsFrom (s ++ c :: t) = ((wordsFrom s).1, (wordsFrom s).2 ++ words t) := by
    induction s with
    | nil => simp [words, wordsFrom, hc]
    | cons d s ih =>
      rw [List.cons_append, wordsFrom, ih, wordsFrom]
      by_cases hd : isSpace d = true
      · cases hfirst : (wordsFrom s).1 <;> simp [hd, hfirst]
      · simp [hd]
  have hwords : words s = if (wordsFrom s).1.isEmpty then (wordsFrom s).2
      else (wordsFrom s).1 :: (wordsFrom s).2 := rfl
  rw [words, hfrom, hwords]
  cases hfirst : (wordsFrom s).1 <;> simp

/-- Blanks behind a text add no words. -/
theorem words_append_right (s : List Char) (hw : Blank w) : words (s ++ w) = words s := by
  rw [words, wordsFrom_append_right s hw, words]

/-- No word goes on behind a text that ends in a blank. -/
theorem words_append_of_last (h : ∃ c ∈ s.getLast?, isSpace c = true) (t : List Char) :
    words (s ++ t) = words s ++ words t := by
  obtain ⟨c, hlast, hc⟩ := h
  obtain ⟨s, rfl⟩ := List.getLast?_eq_some_iff.mp hlast
  have hblank : Blank [c] := by simpa [Blank] using hc
  rw [List.append_assoc, List.singleton_append, words_append_cons hc, words_append_right _ hblank]

/-- What stands between two blanks is a word when it holds none. -/
theorem mem_words_between (hs : ∀ c ∈ s, isSpace c = false) (hne : s ≠ []) {b b' : Char}
    (hb : isSpace b = true) (hb' : isSpace b' = true) (h : b :: s ++ [b'] <:+: t) :
    s ∈ words t := by
  obtain ⟨front, back, rfl⟩ := h
  have htext : front ++ (b :: s ++ [b']) ++ back = front ++ b :: (s ++ ([b'] ++ back)) := by simp
  have hblank : Blank [b'] := by simpa [Blank] using hb'
  rw [htext, words_append_cons hb, words_word_gap hs hne hblank (by simp)]
  exact List.mem_append_right _ List.mem_cons_self

end ClassGraph.Text
