import ClassGraph.Proofs.Text.Nesting

/-!
# Bracketed texts

The texts in which brackets close each other in pairs (`Paired`), and among them those in which
brackets are used as in types, where a dash only stands in the arrow of a function type
(`Bracketed`). A split at commas takes such a text as one part (`Paired.nested`,
`Bracketed.nested`). Both relations are about the text alone and know nothing of depths, so that
they can be read without the scan that they are specifications for.
-/

namespace ClassGraph.Text

/-- The opening brackets, each with the closing one that belongs to it. -/
def bracketPairs : List (Char × Char) := [('<', '>'), ('(', ')'), ('[', ']')]

/-- A text in which brackets close each other. When `commas` is set, commas may stand outside of the
brackets. The `>` of an arrow closes nothing; elsewhere a dash is a character like any other. -/
inductive Paired : Bool → List Char → Prop
  | nil {commas : Bool} : Paired commas []
  | plain {commas : Bool} {c : Char} {s : List Char}
    (hc : c ∉ ['<', '(', '[', '>', ')', ']', ',']) (hs : Paired commas s) : Paired commas (c :: s)
  | comma {s : List Char} (hs : Paired true s) : Paired true (',' :: s)
  | arrow {commas : Bool} {s : List Char} (hs : Paired commas s) : Paired commas ('-' :: '>' :: s)
  | group {commas : Bool} {opening closing : Char} {s t : List Char}
    (hpair : (opening, closing) ∈ bracketPairs) (hs : Paired true s)
    (hend : Apart s.getLast? [closing]) (ht : Paired commas t) :
    Paired commas (opening :: s ++ closing :: t)

/-- A text in which brackets close each other and dashes stand in arrows. When `commas` is set,
commas may stand outside of the brackets. -/
inductive Bracketed : Bool → List Char → Prop
  | nil {commas : Bool} : Bracketed commas []
  | plain {commas : Bool} {c : Char} {s : List Char}
    (hc : c ∉ ['<', '(', '[', '>', ')', ']', ',', '-']) (hs : Bracketed commas s) :
    Bracketed commas (c :: s)
  | comma {s : List Char} (hs : Bracketed true s) : Bracketed true (',' :: s)
  | arrow {commas : Bool} {s : List Char} (hs : Bracketed commas s) :
    Bracketed commas ('-' :: '>' :: s)
  | group {commas : Bool} {opening closing : Char} {s t : List Char}
    (hpair : (opening, closing) ∈ bracketPairs) (hs : Bracketed true s)
    (ht : Bracketed commas t) :
    Bracketed commas (opening :: s ++ closing :: t)

variable {commas : Bool} {opening closing c : Char} {s t w : List Char}

/-- Brackets that make a pair are an opening and a closing one. -/
theorem brackets_of_pair (hpair : (opening, closing) ∈ bracketPairs) :
    opening ∈ ['<', '(', '['] ∧ closing ∈ ['>', ')', ']'] := by
  simp only [bracketPairs, List.mem_cons, Prod.mk.injEq, List.not_mem_nil, or_false] at hpair
  rcases hpair with ⟨rfl, rfl⟩ | ⟨rfl, rfl⟩ | ⟨rfl, rfl⟩ <;> decide

/-! ## Paired texts -/

/-- A text without brackets and commas has none that do not close each other. -/
theorem paired_of_forall (h : ∀ c ∈ s, c ∉ ['<', '(', '[', '>', ')', ']', ',']) :
    Paired commas s := by
  induction s with
  | nil => exact .nil
  | cons c s ih =>
    rw [List.forall_mem_cons] at h
    exact .plain h.1 (ih h.2)

/-- Blanks have no brackets that do not close each other. -/
theorem paired_of_blank (hw : Blank w) : Paired commas w := by
  have hplain : ∀ d ∈ ['<', '(', '[', '>', ')', ']', ','], isSpace d = false :=
    forall_mem_of_all (by decide)
  exact paired_of_forall fun c hc hmem => hw.notMem (hplain c hmem) hc

/-- Two texts whose brackets close each other are one such text. -/
theorem Paired.append (hs : Paired commas s) (ht : Paired commas t) : Paired commas (s ++ t) := by
  induction hs with
  | nil => exact ht
  | plain hc _ ih => exact .plain hc (ih ht)
  | comma _ ih => exact .comma (ih ht)
  | arrow _ ih => exact .arrow (ih ht)
  | @group commas opening closing s t' hpair hs hend _ _ ih =>
    have happend : opening :: s ++ closing :: t' ++ t = opening :: s ++ closing :: (t' ++ t) := by
      simp
    rw [happend]
    exact .group hpair hs hend (ih ht)

/-- A paired text does not begin with a closing bracket. -/
theorem Paired.notMem_of_mem_head? (h : Paired commas s) (hc : c ∈ s.head?) :
    c ∉ ['>', ')', ']'] := by
  cases h with
  | nil => cases hc
  | plain hplain _ =>
    obtain rfl := Option.some.inj hc
    intro hmem
    refine hplain ?_
    revert hmem
    simp only [List.mem_cons, List.not_mem_nil, or_false]
    tauto
  | comma _ =>
    obtain rfl := Option.some.inj hc
    decide
  | arrow _ =>
    obtain rfl := Option.some.inj hc
    decide
  | group hpair _ _ _ =>
    obtain rfl := Option.some.inj hc
    have hopening := (brackets_of_pair hpair).1
    have hother : ∀ d ∈ ['<', '(', '['], d ∉ ['>', ')', ']'] := forall_mem_of_all (by decide)
    exact hother _ hopening

/-- An arrow leaves every depth as it is. -/
theorem keepsDepth_arrow (least : Int) : KeepsDepth least ['-', '>'] := by
  intro depth previous _ _
  simp [Unsplit, depthThrough, depthAfter]

/-- Reading a paired text comes back to the depth at which it began. -/
theorem Paired.keepsDepth (h : Paired commas s) : KeepsDepth (if commas then 1 else 0) s := by
  induction h with
  | nil => exact keepsDepth_nil
  | @plain commas c s hc hs ih =>
    simp only [List.mem_cons, List.not_mem_nil, or_false, not_or] at hc
    have hone : Nested [c] := nested_singleton (by simp [hc]) (by simp [hc])
    have hleast : (0 : Int) ≤ if commas then 1 else 0 := by split_ifs <;> decide
    -- The character may be a dash, but no `>` begins the text behind it.
    exact (hone.mono hleast).append ih fun _ hhead => hs.notMem_of_mem_head? hhead (by decide)
  | comma _ ih =>
    exact KeepsDepth.append (s := [',']) nestedList_comma ih fun hdash =>
      absurd (Option.some.inj hdash) (by decide)
  | arrow _ ih =>
    exact KeepsDepth.append (s := ['-', '>']) (keepsDepth_arrow _) ih fun hdash =>
      absurd (Option.some.inj hdash) (by decide)
  | @group commas opening closing s t hpair _ hend _ ihs iht =>
    obtain ⟨hopening, hclosing⟩ := brackets_of_pair hpair
    have hgroup : Nested (opening :: s ++ [closing]) :=
      NestedList.enclose ihs hend hopening hclosing
    have hleast : (0 : Int) ≤ if commas then 1 else 0 := by split_ifs <;> decide
    have hlast : (opening :: s ++ [closing]).getLast? ≠ some '-' := by
      rw [List.getLast?_concat]
      rintro ⟨rfl⟩
      exact absurd hclosing (by decide)
    have happend := (hgroup.mono hleast).append iht (apart_of_ne hlast t)
    rwa [List.append_assoc] at happend

/-- A split at commas takes a paired text as one part. -/
theorem Paired.nested (h : Paired false s) : Nested s := h.keepsDepth

/-! ## Bracketed texts -/

/-- A text without brackets, commas and dashes is bracketed. -/
theorem bracketed_of_forall (h : ∀ c ∈ s, c ∉ ['<', '(', '[', '>', ')', ']', ',', '-']) :
    Bracketed commas s := by
  induction s with
  | nil => exact .nil
  | cons c s ih =>
    rw [List.forall_mem_cons] at h
    exact .plain h.1 (ih h.2)

/-- Two bracketed texts are one bracketed text. -/
theorem Bracketed.append (hs : Bracketed commas s) (ht : Bracketed commas t) :
    Bracketed commas (s ++ t) := by
  induction hs with
  | nil => exact ht
  | plain hc _ ih => exact .plain hc (ih ht)
  | comma _ ih => exact .comma (ih ht)
  | arrow _ ih => exact .arrow (ih ht)
  | @group commas opening closing s t' hpair hs _ _ ih =>
    have happend : opening :: s ++ closing :: t' ++ t = opening :: s ++ closing :: (t' ++ t) := by
      simp
    rw [happend]
    exact .group hpair hs (ih ht)

/-- A bracketed text is bracketed as a list. -/
theorem Bracketed.toList (h : Bracketed commas s) : Bracketed true s := by
  induction h with
  | nil => exact .nil
  | plain hc _ ih => exact .plain hc ih
  | comma _ ih => exact .comma ih
  | arrow _ ih => exact .arrow ih
  | group hpair hs _ _ ih => exact .group hpair hs ih

/-- Bracketed texts with commas between them are a bracketed list. -/
theorem bracketed_join {parts : List (List Char)} (h : ∀ s ∈ parts, Bracketed commas s) :
    Bracketed true (join [','] parts) := by
  induction parts using join.induct with
  | case1 => exact .nil
  | case2 s => exact (h s (List.mem_singleton_self s)).toList
  | case3 s t rest ih =>
    rw [List.forall_mem_cons] at h
    rw [join, List.append_assoc]
    exact h.1.toList.append (.comma (ih h.2))

/-- A bracketed text does not end in a dash, so that no bracket behind it completes an arrow. -/
theorem Bracketed.getLast?_ne (h : Bracketed commas s) : s.getLast? ≠ some '-' := by
  induction h with
  | nil => simp
  | @plain _ c s hc _ ih =>
    rw [List.getLast?_cons]
    cases hlast : s.getLast? with
    | none =>
      rintro ⟨rfl⟩
      exact hc (by decide)
    | some d => simpa [hlast] using ih
  | @comma s _ ih => cases hlast : s.getLast? <;> simp_all [List.getLast?_cons]
  | @arrow _ s _ ih => cases hlast : s.getLast? <;> simp_all [List.getLast?_cons]
  | @group _ opening closing s t hpair _ _ _ ih =>
    rw [List.getLast?_append, List.getLast?_cons]
    cases hlast : t.getLast? with
    | none =>
      rintro ⟨rfl⟩
      exact absurd (brackets_of_pair hpair).2 (by decide)
    | some d => simpa [hlast] using ih

/-- The brackets of a bracketed text close each other. -/
theorem Bracketed.paired (h : Bracketed commas s) : Paired commas s := by
  have hplain : ∀ d ∈ ['<', '(', '[', '>', ')', ']', ','],
      d ∈ ['<', '(', '[', '>', ')', ']', ',', '-'] := forall_mem_of_all (by decide)
  induction h with
  | nil => exact .nil
  | plain hc _ ih => exact .plain (fun hmem => hc (hplain _ hmem)) ih
  | comma _ ih => exact .comma ih
  | arrow _ ih => exact .arrow ih
  | group hpair hs _ ihs iht => exact .group hpair ihs (apart_of_ne hs.getLast?_ne _) iht

/-- A bracketed text does not begin with a closing bracket. -/
theorem Bracketed.notMem_of_mem_head? (h : Bracketed commas s) (hc : c ∈ s.head?) :
    c ∉ ['>', ')', ']'] := h.paired.notMem_of_mem_head? hc

/-- Without an arrow there is no dash. -/
theorem Bracketed.notMem_dash (h : Bracketed commas s) (harrow : ¬ "->".toList <:+: s) :
    '-' ∉ s := by
  induction h with
  | nil => exact List.not_mem_nil
  | @plain _ c s hc _ ih =>
    rw [List.mem_cons, not_or]
    refine ⟨?_, ih fun h => harrow (h.trans (List.suffix_cons c s).isInfix)⟩
    rintro rfl
    exact hc (by decide)
  | @comma s _ ih =>
    rw [List.mem_cons, not_or]
    exact ⟨by decide, ih fun h => harrow (h.trans (List.suffix_cons ',' s).isInfix)⟩
  | @arrow _ s _ _ => exact absurd (List.prefix_append "->".toList s).isInfix harrow
  | @group _ opening closing s t hpair _ _ ihs iht =>
    obtain ⟨hopening, hclosing⟩ := brackets_of_pair hpair
    have hs : s <:+: opening :: s ++ closing :: t := ⟨[opening], closing :: t, rfl⟩
    have ht : t <:+: opening :: s ++ closing :: t :=
      ⟨opening :: s ++ [closing], [], by simp⟩
    have hbracket : '-' ≠ opening ∧ '-' ≠ closing := by
      constructor <;> rintro rfl <;> simp_all
    simp only [List.mem_append, List.mem_cons, not_or]
    exact ⟨⟨hbracket.1, ihs fun h => harrow (h.trans hs)⟩, hbracket.2,
      iht fun h => harrow (h.trans ht)⟩

/-- A split at commas takes a bracketed text as one part. -/
theorem Bracketed.nested (h : Bracketed false s) : Nested s := h.paired.nested

end ClassGraph.Text
