import Mathlib.Data.List.DropRight
import Mathlib.Data.List.Induction
import ClassGraph.Text.Basic

/-!
# What cuts leave of a text

Trimming takes blanks off both ends of a text, so that blanks put there make no difference
(`trim_append_left`, `trim_append_right`), and takes nothing off a text whose ends are no blanks.
A cut at a character finds it where one part of the text is known not to hold it.
-/

namespace ClassGraph.Text

/-- A text of blanks only. -/
def Blank (s : List Char) : Prop := ∀ c ∈ s, isSpace c = true

variable {s t w : List Char} {c : Char} {p : Char → Bool}

/-- For the characters of a closed text it is enough to try these; the quantifier over all
characters would be decided by trying all of them. -/
theorem forall_mem_of_all {P : Char → Prop} [DecidablePred P]
    (h : s.all (fun c => decide (P c)) = true) : ∀ c ∈ s, P c := by
  simpa using h

/-- The empty text is blank. -/
theorem blank_nil : Blank [] := fun _ hc => absurd hc List.not_mem_nil

/-- Two blank texts are one blank text. -/
theorem Blank.append (hs : Blank s) (ht : Blank t) : Blank (s ++ t) :=
  List.forall_mem_append.mpr ⟨hs, ht⟩

/-- A blank is blank. -/
theorem blank_singleton : Blank [' '] := by simp [Blank, isSpace, spaces]

/-- A character that is no blank is not in a text of blanks. -/
theorem Blank.notMem (hw : Blank w) (hc : isSpace c = false) : c ∉ w := by
  intro hmem
  rw [hw c hmem] at hc
  cases hc

/-! ## Ends of a text -/

/-- Characters that are dropped at the end of a text do not count there. -/
theorem dropEndWhile_append (hw : ∀ c ∈ w, p c = true) :
    dropEndWhile p (s ++ w) = dropEndWhile p s := by
  have hall : ∀ c ∈ w.reverse, p c = true := fun c hc => hw c (List.mem_reverse.mp hc)
  rw [dropEndWhile, List.reverse_append, List.dropWhile_append_of_pos hall, dropEndWhile]

/-- A text is kept that ends with a character which is not dropped. -/
theorem dropEndWhile_concat (hc : p c = false) : dropEndWhile p (s ++ [c]) = s ++ [c] :=
  List.rdropWhile_concat_neg p s c (by simp [hc])

/-- What is taken off the end of a text. -/
theorem exists_dropEndWhile (p : Char → Bool) (s : List Char) :
    ∃ w, (∀ c ∈ w, p c = true) ∧ s = dropEndWhile p s ++ w := by
  refine ⟨(s.reverse.takeWhile p).reverse,
    fun c hc => List.mem_takeWhile_imp (List.mem_reverse.mp hc), ?_⟩
  rw [dropEndWhile, ← List.reverse_append, List.takeWhile_append_dropWhile, List.reverse_reverse]

/-- A character that stays keeps what stands in front of it. -/
theorem dropEndWhile_append_cons (hc : p c = false) (s t : List Char) :
    dropEndWhile p (s ++ c :: t) = s ++ c :: dropEndWhile p t := by
  induction t using List.reverseRecOn with
  | nil => exact dropEndWhile_concat hc
  | append_singleton t d ih =>
    have hsplit : s ++ c :: (t ++ [d]) = (s ++ c :: t) ++ [d] := by simp
    rw [hsplit]
    by_cases hd : p d = true
    · have hone : ∀ e ∈ [d], p e = true := by simpa using hd
      rw [dropEndWhile_append hone, ih, dropEndWhile_append hone]
    · have hstays : p d = false := by simpa using hd
      rw [dropEndWhile_concat hstays, dropEndWhile_concat hstays, hsplit]

/-- Nothing is taken off a text whose last character stays. -/
theorem dropEndWhile_eq_self (h : ∀ c ∈ s.getLast?, p c = false) : dropEndWhile p s = s := by
  induction s using List.reverseRecOn with
  | nil => rfl
  | append_singleton s c => exact dropEndWhile_concat (h c (by simp))

/-- Blanks in front of a text are trimmed with its start. -/
theorem trimStart_append_left (hw : Blank w) (s : List Char) : trimStart (w ++ s) = trimStart s :=
  List.dropWhile_append_of_pos hw

/-- A text that begins with no blank is kept when its start is trimmed. -/
theorem trimStart_cons (hc : isSpace c = false) (s : List Char) : trimStart (c :: s) = c :: s :=
  List.dropWhile_cons_of_neg (by simp [hc])

/-- Nothing is left of a text whose start is trimmed when it is blank. -/
theorem trimStart_eq_nil_iff : trimStart s = [] ↔ Blank s :=
  List.dropWhile_eq_nil_iff

/-- What stands behind a text that is not blank stays when its beginning is trimmed. -/
theorem trimStart_append_right (hs : ¬ Blank s) (t : List Char) :
    trimStart (s ++ t) = trimStart s ++ t := by
  have hne : trimStart s ≠ [] := mt trimStart_eq_nil_iff.mp hs
  have hkept : (s.dropWhile isSpace).isEmpty = false := by
    rw [Bool.eq_false_iff, Ne, List.isEmpty_iff]
    exact hne
  rw [trimStart, List.dropWhile_append, hkept, if_neg Bool.false_ne_true, trimStart]

/-- Blanks behind a text are trimmed with its end. -/
theorem trimEnd_append_right (s : List Char) (hw : Blank w) : trimEnd (s ++ w) = trimEnd s :=
  dropEndWhile_append hw

/-- Blanks in front of a text do not count when it is trimmed. -/
theorem trim_append_left (hw : Blank w) (s : List Char) : trim (w ++ s) = trim s := by
  rw [trim, trimStart_append_left hw, trim]

/-- Blanks behind a text do not count when it is trimmed. -/
theorem trim_append_right (s : List Char) (hw : Blank w) : trim (s ++ w) = trim s := by
  by_cases hs : Blank s
  · rw [trim, trim, trimStart_eq_nil_iff.mpr hs, trimStart_eq_nil_iff.mpr (hs.append hw)]
  · rw [trim, trimStart_append_right hs, trimEnd_append_right _ hw, trim]

/-- It does not count whether a text that is trimmed has been trimmed at its start. -/
theorem trim_trimStart (s : List Char) : trim (trimStart s) = trim s := by
  rw [trim, trimStart, trimStart, List.dropWhile_idempotent, trim, trimStart]

/-- A text that ends in a character which is no blank stays at the end of a trimmed text. -/
theorem trim_append (hs : ¬ Blank s) (hlast : t.getLast? = some c) (hc : isSpace c = false) :
    trim (s ++ t) = trimStart s ++ t := by
  rw [trim, trimStart_append_right hs, trimEnd]
  refine dropEndWhile_eq_self fun d hd => ?_
  rw [List.getLast?_append, hlast, Option.some_or] at hd
  obtain rfl := Option.some.inj hd
  exact hc

/-- A single character is kept when it is no blank. -/
theorem trim_singleton (hc : isSpace c = false) : trim [c] = [c] := by
  rw [trim, trimStart_cons hc]
  exact dropEndWhile_concat (s := []) hc

/-- A text without blanks stays as it is. -/
theorem trim_of_forall (hs : ∀ c ∈ s, isSpace c = false) : trim s = s := by
  have hstart : trimStart s = s := by
    cases s with
    | nil => rfl
    | cons c s => exact trimStart_cons (hs c List.mem_cons_self) s
  rw [trim, hstart]
  exact dropEndWhile_eq_self fun c hc => hs c (List.mem_of_getLast? hc)

/-- What trimming takes off the end of a text. -/
theorem exists_trimStart (s : List Char) : ∃ w, Blank w ∧ trimStart s = trim s ++ w :=
  exists_dropEndWhile isSpace (trimStart s)

/-- What trimming takes off a text. -/
theorem exists_trim (s : List Char) : ∃ w w', Blank w ∧ Blank w' ∧ s = w ++ trim s ++ w' := by
  obtain ⟨w', hw', hend⟩ := exists_trimStart s
  refine ⟨s.takeWhile isSpace, w', fun c hc => List.mem_takeWhile_imp hc, hw', ?_⟩
  rw [List.append_assoc, ← hend, trimStart, List.takeWhile_append_dropWhile]

/-- A trimmed text stays as it is when it is trimmed. -/
theorem trim_trim (s : List Char) : trim (trim s) = trim s := by
  obtain ⟨w, w', hw, hw', hs⟩ := exists_trim s
  conv_rhs => rw [hs, trim_append_right _ hw', trim_append_left hw]

/-- A trimmed text stays as it is when its start is trimmed. -/
theorem trimStart_trim (s : List Char) : trimStart (trim s) = trim s := by
  have hlength : (trim s).length ≤ (trimStart (trim s)).length := by
    calc (trim s).length = (trim (trim s)).length := by rw [trim_trim]
      _ ≤ (trimStart (trim s)).length := length_trimEnd_le _
  exact (List.dropWhile_suffix isSpace).eq_of_length_le hlength

/-- A text that is trimmed already stays as it is when its start is trimmed. -/
theorem trimStart_eq_self (hs : trim s = s) : trimStart s = s := by
  rw [← hs, trimStart_trim]

/-- Nothing is left of a text that is trimmed when it is blank. -/
theorem trim_eq_nil_iff : trim s = [] ↔ Blank s := by
  constructor
  · intro hs
    obtain ⟨w, w', hw, hw', heq⟩ := exists_trim s
    rw [heq, hs, List.append_nil]
    exact hw.append hw'
  · intro hs
    rw [trim, trimStart_eq_nil_iff.mpr hs]
    rfl

/-- The character is the last one of a text that is no blank. -/
def Ends (s : List Char) (c : Char) : Prop :=
  isSpace c = false ∧ ∃ front back, s = front ++ c :: back ∧ Blank back

/-- A text ends with a last character that is no blank. -/
theorem ends_concat (s : List Char) (hc : isSpace c = false) : Ends (s ++ [c]) c :=
  ⟨hc, s, [], rfl, blank_nil⟩

/-- What stands in front of a text does not change how it ends. -/
theorem Ends.append_left (h : Ends s c) (t : List Char) : Ends (t ++ s) c := by
  obtain ⟨hc, front, back, rfl, hback⟩ := h
  exact ⟨hc, t ++ front, back, (List.append_assoc ..).symm, hback⟩

/-- Blanks behind a text do not change how it ends. -/
theorem Ends.append_right (h : Ends s c) (hw : Blank w) : Ends (s ++ w) c := by
  obtain ⟨hc, front, back, rfl, hback⟩ := h
  exact ⟨hc, front, back ++ w, List.append_assoc .., hback.append hw⟩

/-- Trimming leaves the last character that is no blank at the end. -/
theorem Ends.getLast?_trim (h : Ends s c) : (trim s).getLast? = some c := by
  obtain ⟨hc, front, back, rfl, hback⟩ := h
  have hconcat : front ++ c :: back = front ++ [c] ++ back := by simp
  rw [hconcat, trim_append_right _ hback]
  by_cases hfront : Blank front
  · rw [trim_append_left hfront, trim_singleton hc, List.getLast?_singleton]
  · rw [trim_append hfront List.getLast?_singleton hc, List.getLast?_concat]

/-- Only blanks stand behind it. -/
theorem Ends.of_mem_getLast? (h : Ends s c) {d : Char} (hd : d ∈ (trimStart s).getLast?) :
    d = c ∨ isSpace d = true := by
  obtain ⟨w, hw, htrim⟩ := exists_trimStart s
  rw [htrim, List.getLast?_append, h.getLast?_trim] at hd
  cases hlast : w.getLast? with
  | none =>
    rw [hlast] at hd
    exact .inl (Option.some.inj hd).symm
  | some b =>
    rw [hlast] at hd
    obtain rfl := Option.some.inj hd
    exact .inr (hw b (List.mem_of_getLast? hlast))

/-- A trimmed text is a part of the text. -/
theorem isInfix_trim (s : List Char) : trim s <:+: s :=
  (List.rdropWhile_prefix isSpace _).isInfix.trans (List.dropWhile_suffix isSpace).isInfix

/-- A text whose start is trimmed does not begin with a blank. -/
theorem not_isSpace_of_mem_head?_trimStart (hc : c ∈ (trimStart s).head?) :
    isSpace c = false := by
  have hhead := List.head?_dropWhile_not isSpace s
  rwa [← trimStart, Option.mem_def.mp hc] at hhead

/-- A trimmed text begins with no blank. -/
theorem not_isSpace_of_mem_head?_trim (hc : c ∈ (trim s).head?) : isSpace c = false :=
  not_isSpace_of_mem_head?_trimStart (s := trim s) (by rwa [trimStart_trim])

/-- A trimmed text ends in no blank. -/
theorem not_isSpace_of_mem_getLast?_trim (hc : c ∈ (trim s).getLast?) : isSpace c = false := by
  have hhead := List.head?_dropWhile_not isSpace (trimStart s).reverse
  have hlast : (trim s).getLast? = ((trimStart s).reverse.dropWhile isSpace).head? :=
    List.getLast?_reverse
  rw [← hlast, Option.mem_def.mp hc] at hhead
  exact hhead

/-- A trimmed text leaves characters of the text out, and adds none. -/
theorem trim_sublist (s : List Char) : (trim s).Sublist s := (isInfix_trim s).sublist

/-! ## Cuts at a character -/

/-- A text is cut at the first of a character, behind a text without it. -/
theorem cutAt?_append (hc : c ∉ s) (t : List Char) : cutAt? c (s ++ c :: t) = some (s, t) := by
  induction s with
  | nil => simp [cutAt?]
  | cons d s ih =>
    rw [List.mem_cons, not_or] at hc
    rw [List.cons_append, cutAt?, if_neg (Ne.symm hc.1), ih hc.2, Option.map_some]

/-- A text without a character is not cut at it. -/
theorem cutAt?_eq_none (hc : c ∉ s) : cutAt? c s = none := by
  induction s with
  | nil => rfl
  | cons d s ih =>
    rw [List.mem_cons, not_or] at hc
    rw [cutAt?, if_neg (Ne.symm hc.1), ih hc.2, Option.map_none]

/-- The characters of a text without a character are others. -/
theorem bne_of_notMem (hc : c ∉ s) : ∀ d ∈ s, (d != c) = true := by
  intro d hd
  rw [bne_iff_ne]
  rintro rfl
  exact hc hd

/-- In front of the first of a character stands a text without it. -/
theorem beforeChar_append (hc : c ∉ s) (t : List Char) : beforeChar c (s ++ c :: t) = s := by
  rw [beforeChar, List.takeWhile_append_of_pos (bne_of_notMem hc),
    List.takeWhile_cons_of_neg (by simp), List.append_nil]

/-- A text without a character stands in front of it as a whole. -/
theorem beforeChar_eq_self (hc : c ∉ s) : beforeChar c s = s :=
  List.takeWhile_eq_self_iff.mpr (bne_of_notMem hc)

/-- What stands in front of a character does not count for what stands behind the last. -/
theorem afterLast_append (c : Char) (s t : List Char) :
    afterLast c (s ++ c :: t) = afterLast c t := by
  have hcut : (s ++ c :: t).reverse = t.reverse ++ c :: s.reverse := by simp
  rw [afterLast, afterLast, hcut, List.takeWhile_append]
  split_ifs with hall
  · rw [List.takeWhile_cons_of_neg (by simp), List.append_nil,
      (List.takeWhile_prefix _).eq_of_length hall]
  · rfl

/-- A text without a character stands behind its last one as a whole. -/
theorem afterLast_eq_self (hc : c ∉ s) : afterLast c s = s := by
  have hall : ∀ d ∈ s.reverse, (d != c) = true :=
    bne_of_notMem fun hmem => hc (List.mem_reverse.mp hmem)
  rw [afterLast, List.takeWhile_eq_self_iff.mpr hall, List.reverse_reverse]

/-- What stands behind the last of a character goes on with a text without it. -/
theorem afterLast_append_right (s : List Char) (hw : c ∉ w) :
    afterLast c (s ++ w) = afterLast c s ++ w := by
  have hall : ∀ d ∈ w.reverse, (d != c) = true :=
    bne_of_notMem fun hmem => hw (List.mem_reverse.mp hmem)
  rw [afterLast, List.reverse_append, List.takeWhile_append_of_pos hall, List.reverse_append,
    List.reverse_reverse, afterLast]

/-- Blanks around a text do not count for what stands behind the last of its `c`. -/
theorem trim_afterLast_trim (hc : isSpace c = false) (s : List Char) :
    trim (afterLast c (trim s)) = trim (afterLast c s) := by
  obtain ⟨w, w', hw, hw', hs⟩ := exists_trim s
  conv_rhs => rw [hs]
  rw [afterLast_append_right _ (hw'.notMem hc), trim_append_right _ hw']
  by_cases hmem : c ∈ trim s
  · obtain ⟨front, back, heq⟩ := List.append_of_mem hmem
    rw [heq, ← List.append_assoc, afterLast_append, afterLast_append]
  · have hmem' : c ∉ w ++ trim s := by
      rw [List.mem_append, not_or]
      exact ⟨hw.notMem hc, hmem⟩
    rw [afterLast_eq_self hmem, afterLast_eq_self hmem', trim_append_left hw]

/-- In front of the first of a character there is none. -/
theorem notMem_beforeChar (c : Char) (s : List Char) : c ∉ beforeChar c s :=
  fun hmem => absurd (List.mem_takeWhile_imp hmem) (by simp)

/-- What stands in front of a character begins the text. -/
theorem isPrefix_beforeChar (c : Char) (s : List Char) : beforeChar c s <+: s :=
  List.takeWhile_prefix _

/-- Behind the last of a character there is none. -/
theorem notMem_afterLast (c : Char) (s : List Char) : c ∉ afterLast c s :=
  fun hmem => absurd (List.mem_takeWhile_imp (List.mem_reverse.mp hmem)) (by simp)

/-- What stands behind a character ends the text. -/
theorem isSuffix_afterLast (c : Char) (s : List Char) : afterLast c s <:+ s := by
  rw [← List.reverse_prefix, afterLast, List.reverse_reverse]
  exact List.takeWhile_prefix _

/-! ## Joined texts -/

variable {separator : List Char} {parts : List (List Char)}

/-- A character of joined parts is one of a part or of the separator. -/
theorem mem_join (hc : c ∈ join separator parts) : (∃ s ∈ parts, c ∈ s) ∨ c ∈ separator := by
  induction parts using join.induct with
  | case1 => cases hc
  | case2 s => exact .inl ⟨s, List.mem_singleton_self s, hc⟩
  | case3 s t rest ih =>
    rw [join, List.mem_append, List.mem_append] at hc
    rcases hc with (hc | hc) | hc
    · exact .inl ⟨s, List.mem_cons_self, hc⟩
    · exact .inr hc
    · exact (ih hc).imp (fun ⟨u, hu, hmem⟩ => ⟨u, List.mem_cons_of_mem s hu, hmem⟩) id

/-- A part stands in the joined parts. -/
theorem infix_join (hs : s ∈ parts) : s <:+: join separator parts := by
  induction parts using join.induct with
  | case1 => cases hs
  | case2 t =>
    rw [List.mem_singleton.mp hs]
    exact List.infix_rfl
  | case3 t u rest ih =>
    rw [join]
    rcases List.mem_cons.mp hs with rfl | hs
    · rw [List.append_assoc]
      exact (List.prefix_append s _).isInfix
    · exact (ih hs).trans (List.suffix_append _ _).isInfix

/-! ## Marks in a text -/

/-- A text does not begin with a mark when nothing is found behind the mark. -/
theorem isPrefixOf?_eq_none_iff {mark : List Char} :
    mark.isPrefixOf? s = none ↔ ¬ mark <+: s := by
  simp only [Option.eq_none_iff_forall_ne_some, ne_eq, List.isPrefixOf?_eq_some_iff_append_eq,
    List.IsPrefix, not_exists]

/-- A text holds a mark when the mark is a piece of it. -/
theorem containsText_iff {mark : List Char} : containsText mark s = true ↔ mark <:+: s := by
  rw [containsText]
  induction s with
  | nil => cases mark <;> simp [cutAtText?]
  | cons c s ih =>
    rw [cutAtText?, List.infix_cons_iff, ← ih]
    cases hprefix : mark.isPrefixOf? (c :: s) with
    | none => simp [isPrefixOf?_eq_none_iff.mp hprefix]
    | some rest =>
      have hmark : mark <+: c :: s := ⟨rest, append_of_isPrefixOf? hprefix⟩
      simp [hmark]

/-- A text without the first character of a mark does not hold the mark. -/
theorem containsText_eq_false (hc : c ∉ s) (mark : List Char) :
    containsText (c :: mark) s = false :=
  Bool.eq_false_iff.mpr fun h => hc ((containsText_iff.mp h).subset List.mem_cons_self)

end ClassGraph.Text
