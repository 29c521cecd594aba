import ClassGraph.Proofs.Text.Words

/-!
# First lines

What is left of a text in front of a mark, and of its first line. Both are beginnings of the text,
and a text in which neither the mark nor a line break occurs stays in front of what is left of the
rest (`beforeText_append`, `firstLine_append`). A mark that is a word between two blanks may also
begin with the last blank of the text in front, which has to be excluded
(`beforeText_append_of_word`).
-/

namespace ClassGraph.Text

variable {s t mark word : List Char} {c : Char}

/-! ## In front of a mark -/

/-- A text without a mark stands in front of it as a whole. -/
theorem beforeText_eq_self (h : ¬ mark <:+: s) : beforeText mark s = s := by
  have hnone : cutAtText? mark s = none := by
    rw [← Option.not_isSome_iff_eq_none]
    exact mt containsText_iff.mp h
  rw [beforeText, hnone]

/-- Nothing stands in front of a mark that begins the text. -/
theorem beforeText_eq_nil (h : mark <+: s) : beforeText mark s = [] := by
  rw [beforeText]
  cases s with
  | nil =>
    obtain rfl := List.prefix_nil.mp h
    rfl
  | cons c s =>
    rw [cutAtText?]
    cases hbegins : mark.isPrefixOf? (c :: s) with
    | some rest => rfl
    | none => exact absurd h (isPrefixOf?_eq_none_iff.mp hbegins)

/-- Where the mark does not begin the text, its first character stands in front of the mark. -/
theorem beforeText_cons (h : ¬ mark <+: c :: s) :
    beforeText mark (c :: s) = c :: beforeText mark s := by
  rw [beforeText, beforeText, cutAtText?, isPrefixOf?_eq_none_iff.mpr h]
  cases cutAtText? mark s <;> rfl

/-- A text in which no copy of the mark begins does not count. -/
theorem beforeText_append (h : ∀ u, u <:+ s → u ≠ [] → ¬ mark <+: u ++ t) :
    beforeText mark (s ++ t) = s ++ beforeText mark t := by
  induction s with
  | nil => rfl
  | cons c s ih =>
    have hfirst : ¬ mark <+: c :: (s ++ t) := h (c :: s) List.suffix_rfl (List.cons_ne_nil c s)
    have hbehind := ih fun u hu => h u (hu.trans (List.suffix_cons c s))
    rw [List.cons_append, beforeText_cons hfirst, hbehind, List.cons_append]

/-- A text with a copy of the mark is cut at a copy. -/
theorem exists_beforeText_append (h : mark <:+: s) (t : List Char) :
    ∃ rest, s = beforeText mark (s ++ t) ++ mark ++ rest := by
  induction s with
  | nil =>
    obtain rfl := List.infix_nil.mp h
    exact ⟨[], by rw [beforeText_eq_nil List.nil_prefix]; rfl⟩
  | cons c s ih =>
    by_cases hbegins : mark <+: c :: s ++ t
    · obtain ⟨rest, hrest⟩ :=
        List.prefix_of_prefix_length_le hbegins (List.prefix_append _ t) h.length_le
      exact ⟨rest, by rw [beforeText_eq_nil hbegins, List.nil_append, hrest]⟩
    · have hinside : mark <:+: s := (List.infix_cons_iff.mp h).resolve_left fun hmark =>
        hbegins (hmark.trans (List.prefix_append _ t))
      obtain ⟨rest, hrest⟩ := ih hinside
      rw [List.cons_append] at hbegins ⊢
      refine ⟨rest, ?_⟩
      rw [beforeText_cons hbegins, List.cons_append, List.cons_append, ← hrest]

/-- A beginning of a text without its first character is empty. -/
theorem eq_nil_of_prefix_cons {r : List Char} (h : r <+: c :: t) (hc : c ∉ r) : r = [] := by
  cases r with
  | nil => rfl
  | cons d r =>
    obtain rfl := (List.cons_prefix_cons.mp h).1
    exact absurd List.mem_cons_self hc

/-- No copy of a mark goes over a character that is none of its own. -/
theorem infix_append_cons (h : mark <:+: s ++ c :: t) (hc : c ∉ mark) :
    mark <:+: s ∨ mark <:+: t := by
  rcases List.infix_append_iff.mp h with hs | ht | ⟨l, r, rfl, hl, hr⟩
  · exact .inl hs
  · rcases List.infix_cons_iff.mp ht with hbegins | ht
    · rw [eq_nil_of_prefix_cons hbegins hc]
      exact .inl List.nil_infix
    · exact .inr ht
  · rw [eq_nil_of_prefix_cons hr fun hmem => hc (List.mem_append_right l hmem), List.append_nil]
    exact .inl hl.isInfix

/-- Behind a text without a mark and a character that is not in the mark, the mark is looked for
further on. -/
theorem beforeText_append_cons (h : ¬ mark <:+: s) (hc : c ∉ mark) (t : List Char) :
    beforeText mark (s ++ c :: t) = s ++ c :: beforeText mark t := by
  have happend : beforeText mark (s ++ [c] ++ t) = s ++ [c] ++ beforeText mark t := by
    refine beforeText_append fun u hu hne hmark => ?_
    obtain ⟨v, rfl, hv⟩ := (List.suffix_concat_iff.mp hu).resolve_left hne
    rw [List.append_assoc] at hmark
    rcases List.prefix_or_prefix_of_prefix hmark (List.prefix_append v _) with hv' | ⟨r, rfl⟩
    · exact h (hv'.isInfix.trans hv.isInfix)
    · rw [List.prefix_append_right_inj] at hmark
      rw [eq_nil_of_prefix_cons hmark fun hmem => hc (List.mem_append_right v hmem),
        List.append_nil] at h
      exact h hv.isInfix
  simpa using happend

/-- A mark that is a word between two blanks does not begin in a text which ends in a blank, unless
the word stands behind it. -/
theorem beforeText_append_of_word (hword : ∀ c ∈ word, isSpace c = false)
    (hs : ¬ ' ' :: word ++ [' '] <:+: s) (hlast : ∀ c ∈ s.getLast?, isSpace c = true)
    (ht : ¬ word ++ [' '] <+: t) :
    beforeText (' ' :: word ++ [' ']) (s ++ t) = s ++ beforeText (' ' :: word ++ [' ']) t := by
  refine beforeText_append fun u hu hnonempty hmark => ?_
  rcases List.prefix_or_prefix_of_prefix hmark (List.prefix_append u t) with hmark' | ⟨r, hr⟩
  · exact hs (hmark'.isInfix.trans hu.isInfix)
  · rw [← hr, List.prefix_append_right_inj] at hmark
    have hr₀ : r ≠ [] := by
      rintro rfl
      rw [List.append_nil] at hr
      exact hs (hr ▸ hu.isInfix)
    obtain ⟨b, u, rfl⟩ := List.exists_cons_of_ne_nil hnonempty
    rw [List.cons_append, List.cons_append, List.cons.injEq] at hr
    rcases eq_or_ne u [] with rfl | hu'
    · -- The copy begins with the last blank, so that the word stands behind it.
      rw [List.nil_append] at hr
      exact ht (hr.2 ▸ hmark)
    · -- Else a character of the word would be the last one of the text, which is a blank.
      have hend : u.getLast hu' ∈ s.getLast? := by
        obtain ⟨front, rfl⟩ := hu
        rw [List.getLast?_append, List.getLast?_cons, List.getLast?_eq_some_getLast hu']
        rfl
      have hmem : u.getLast hu' ∈ word := by
        rcases List.append_eq_append_iff.mp hr.2 with ⟨r', rfl, -⟩ | ⟨r', rfl, hr'⟩
        · exact List.mem_append_left r' (List.getLast_mem hu')
        · obtain rfl : r' = [] := by
            rcases List.append_eq_singleton_iff.mp hr'.symm with ⟨hnil, -⟩ | ⟨-, hnil⟩
            · exact hnil
            · exact absurd hnil hr₀
          simp
      have hspace := hlast _ hend
      rw [hword _ hmem] at hspace
      cases hspace

/-! ## First lines -/

/-- A text without a line break is its own first line. -/
theorem firstLine_eq_self (hs : '\n' ∉ s) : firstLine s = s := by
  rw [firstLine, cutAt?_eq_none hs]

/-- The first line of a text ends in front of its first line break and a carriage return there. -/
theorem firstLine_break (hs : '\n' ∉ s) (t : List Char) :
    firstLine (s ++ '\n' :: t) = if s.getLast? = some '\r' then s.dropLast else s := by
  rw [firstLine, cutAt?_append hs]

/-- What is taken off a line in front of its break. -/
theorem exists_firstLine_break (hs : '\n' ∉ s) (t : List Char) :
    ∃ w, Blank w ∧ s = firstLine (s ++ '\n' :: t) ++ w := by
  rw [firstLine_break hs]
  split_ifs with hreturn
  · refine ⟨['\r'], by simp [Blank, isSpace, spaces], ?_⟩
    exact (List.dropLast_append_getLast? '\r' hreturn).symm
  · exact ⟨[], blank_nil, (List.append_nil s).symm⟩

/-- A text without line breaks stays in front of a line. -/
theorem firstLine_append (hs : '\n' ∉ s) (ht : t.head? ≠ some '\n') :
    firstLine (s ++ t) = s ++ firstLine t := by
  by_cases hbreak : '\n' ∈ t
  · obtain ⟨line, rest, rfl, hline⟩ := List.eq_append_cons_of_mem hbreak
    cases line with
    | nil => exact absurd rfl ht
    | cons c line =>
      have hboth : '\n' ∉ s ++ c :: line := by
        rw [List.mem_append, not_or]
        exact ⟨hs, hline⟩
      have hlast : (s ++ c :: line).getLast? = (c :: line).getLast? := by
        simp [List.getLast?_append, List.getLast?_cons]
      rw [← List.append_assoc, firstLine_break hboth, firstLine_break hline, hlast]
      split_ifs
      · rw [List.dropLast_append_cons]
      · rfl
  · rw [firstLine_eq_self hbreak, firstLine_eq_self (by simp [hs, hbreak])]

/-- No carriage return is taken off a text that does not end in one. -/
theorem firstLine_append_of_last (hs : '\n' ∉ s) (hlast : s.getLast? ≠ some '\r')
    (t : List Char) : firstLine (s ++ t) = s ++ firstLine t := by
  by_cases ht : t.head? = some '\n'
  · obtain ⟨rest, rfl⟩ := List.head?_eq_some_iff.mp ht
    rw [firstLine_break hs, if_neg hlast]
    exact (List.append_nil s).symm
  · exact firstLine_append hs ht

/-- The first line of a text with a line break ends at a blank. -/
theorem exists_firstLine_append (hs : '\n' ∈ s) (t : List Char) :
    ∃ c rest, isSpace c = true ∧ s = firstLine (s ++ t) ++ c :: rest := by
  obtain ⟨line, rest, rfl, hline⟩ := List.eq_append_cons_of_mem hs
  obtain ⟨w, hw, heq⟩ := exists_firstLine_break hline (rest ++ t)
  have htext : line ++ '\n' :: rest =
      firstLine (line ++ '\n' :: (rest ++ t)) ++ (w ++ '\n' :: rest) := by
    rw [← List.append_assoc, ← heq]
  rw [List.append_assoc, List.cons_append]
  cases w with
  | nil => exact ⟨'\n', rest, by decide, htext⟩
  | cons c w => exact ⟨c, w ++ '\n' :: rest, hw c List.mem_cons_self, htext⟩

end ClassGraph.Text
