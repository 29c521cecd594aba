import ClassGraph.Proofs.Text.Cutting
import ClassGraph.Text.Nesting

/-!
# Splitting nested texts

A text is nested when its brackets close each other and its commas stand inside of them
(`Nested`). Such a text is a single part of a split, whatever stands behind the next comma
(`splitTopLevel_append`), since reading it comes back to the depth at which it began. Brackets
around a list of nested texts make a nested text (`NestedList.enclose`). An arrow closes nothing, so
that a text which ends with a dash must not be followed by `>`.
-/

namespace ClassGraph.Text

/-- The depth behind a text that is read from `depth` on, behind the character `previous`. -/
def depthThrough (previous : Option Char) (depth : Int) : List Char → Int
  | [] => depth
  | c :: cs => depthThrough (some c) (depthAfter false previous depth c) cs

/-- No separator of a text stands at depth zero. -/
def Unsplit (separator : Char) (previous : Option Char) (depth : Int) : List Char → Prop
  | [] => True
  | c :: cs => ¬ (c = separator ∧ depth = 0) ∧
    Unsplit separator (some c) (depthAfter false previous depth c) cs

/-- The text does not complete an arrow behind the character `previous`. -/
def Apart (previous : Option Char) (s : List Char) : Prop :=
  previous = some '-' → s.head? ≠ some '>'

/-- From every depth that is not below `least`, reading the text meets no comma at depth zero and
comes back to where it began. -/
def KeepsDepth (least : Int) (s : List Char) : Prop :=
  ∀ (depth : Int) (previous : Option Char), least ≤ depth → Apart previous s →
    Unsplit ',' previous depth s ∧ depthThrough previous depth s = depth

/-- The brackets of a text close each other, and its commas stand inside of them. -/
def Nested (s : List Char) : Prop := KeepsDepth 0 s

/-- The brackets of a text close each other, and its commas may stand outside of them. -/
def NestedList (s : List Char) : Prop := KeepsDepth 1 s

variable {separator : Char} {previous previous' : Option Char} {depth least : Int}
  {s t : List Char} {c : Char}

/-- Behind a character that is no dash no arrow is completed. -/
theorem apart_of_ne (h : previous ≠ some '-') (s : List Char) : Apart previous s :=
  fun hdash => absurd hdash h

/-! ## Reading on -/

/-- The last character that has been read. -/
theorem getLast?_cons_or (c : Char) (s : List Char) (previous : Option Char) :
    (c :: s).getLast?.or previous = s.getLast?.or (some c) := by
  cases s <;> simp [List.getLast?_cons]

/-- A text has no separator at depth zero when neither of its parts has one. -/
theorem unsplit_append : Unsplit separator previous depth (s ++ t) ↔
    Unsplit separator previous depth s ∧
      Unsplit separator (s.getLast?.or previous) (depthThrough previous depth s) t := by
  induction s generalizing previous depth with
  | nil => simp [Unsplit, depthThrough]
  | cons c s ih =>
    rw [List.cons_append, Unsplit, ih, Unsplit, depthThrough, getLast?_cons_or, and_assoc]

/-- The depth behind two texts is that behind the second, read from the depth behind the first. -/
theorem depthThrough_append : depthThrough previous depth (s ++ t) =
    depthThrough (s.getLast?.or previous) (depthThrough previous depth s) t := by
  induction s generalizing previous depth with
  | nil => simp [depthThrough]
  | cons c s ih =>
    rw [List.cons_append, depthThrough, ih, depthThrough, getLast?_cons_or]

/-- The first pieces of a text hold a beginning in which nothing separates. -/
theorem pieces_append (h : Unsplit separator previous depth s) (t : List Char) :
    pieces separator depth previous (s ++ t) =
      let rest := pieces separator (depthThrough previous depth s) (s.getLast?.or previous) t
      (s ++ rest.1, rest.2) := by
  induction s generalizing previous depth with
  | nil => simp [depthThrough]
  | cons c s ih =>
    rw [List.cons_append, pieces, ih h.2, getLast?_cons_or, depthThrough]
    simp only [if_neg h.1, List.cons_append]

/-- A blank leaves the depth as it is. -/
theorem depthAfter_of_isSpace (hc : isSpace c = true) :
    depthAfter false previous depth c = depth := by
  have hbracket : ∀ d ∈ ['<', '(', '[', '>', ')', ']'], isSpace d = false :=
    forall_mem_of_all (by decide)
  have hne {d : Char} (hd : d ∈ ['<', '(', '[', '>', ')', ']']) : c ≠ d := by
    rintro rfl
    rw [hbracket c hd] at hc
    cases hc
  simp only [depthAfter, hne (d := '<') (by decide), hne (d := '(') (by decide),
    hne (d := '[') (by decide), hne (d := '>') (by decide), hne (d := ')') (by decide),
    hne (d := ']') (by decide), Bool.false_eq_true, false_and, or_false, if_false]

/-- What stands before a text only counts where the text completes an arrow. -/
theorem depthAfter_congr (h : Apart previous (c :: s)) (h' : Apart previous' (c :: s)) :
    depthAfter false previous depth c = depthAfter false previous' depth c := by
  have harrow : ∀ {p : Option Char}, Apart p (c :: s) → ¬ (c = '>' ∧ p = some '-') := by
    rintro p hp ⟨rfl, hdash⟩
    exact hp hdash rfl
  simp only [depthAfter, harrow h, harrow h', if_false]

/-- The pieces of a text do not depend on the character in front of it, when no arrow is completed
there. -/
theorem pieces_congr (h : Apart previous s) (h' : Apart previous' s) :
    pieces separator depth previous s = pieces separator depth previous' s := by
  cases s with
  | nil => rfl
  | cons c s => rw [pieces, pieces, depthAfter_congr h h']

/-- A comma at depth zero separates, whatever the text in front of it is. -/
theorem pieces_append_comma (h : depthThrough previous depth s = 0) (t : List Char) :
    pieces ',' depth previous (s ++ ',' :: t) =
      ((pieces ',' depth previous s).1,
        (pieces ',' depth previous s).2 ++ (pieces ',' 0 none t).1 :: (pieces ',' 0 none t).2) := by
  induction s generalizing previous depth with
  | nil =>
    have hdepth : depth = 0 := h
    have hcongr : pieces ',' 0 (some ',') t = pieces ',' 0 none t :=
      pieces_congr (apart_of_ne (by simp) t) (apart_of_ne (by simp) t)
    have hcomma : depthAfter false previous 0 ',' = 0 := rfl
    rw [List.nil_append, hdepth]
    simp only [pieces, hcomma, hcongr]
    simp
  | cons c s ih =>
    simp only [List.cons_append, pieces, ih h]
    by_cases hcut : c = ',' ∧ depth = 0 <;> simp [hcut]

/-! ## Nested texts -/

/-- A text that keeps some depths keeps those that are greater. -/
theorem KeepsDepth.mono (h : KeepsDepth least s) {more : Int} (hle : least ≤ more) :
    KeepsDepth more s :=
  fun depth previous hdepth => h depth previous (Int.le_trans hle hdepth)

/-- A text with its commas inside of brackets is a list of one part. -/
theorem Nested.toList (h : Nested s) : NestedList s := h.mono (by omega)

/-- The empty text keeps every depth. -/
theorem keepsDepth_nil : KeepsDepth least [] := fun _ _ _ _ => ⟨trivial, rfl⟩

/-- A text and one behind it, where these do not make an arrow. -/
theorem KeepsDepth.append (hs : KeepsDepth least s) (ht : KeepsDepth least t)
    (hst : Apart s.getLast? t) : KeepsDepth least (s ++ t) := by
  intro depth previous hdepth hprevious
  have hbefore : Apart previous s := by
    intro hdash hhead
    refine hprevious hdash ?_
    cases s with
    | nil => cases hhead
    | cons c s => exact hhead
  have hbehind : Apart (s.getLast?.or previous) t := by
    cases s with
    | nil => exact hprevious
    | cons c s => simpa [List.getLast?_cons] using hst
  obtain ⟨hunsplit, hthrough⟩ := hs depth previous hdepth hbefore
  obtain ⟨hunsplit', hthrough'⟩ := ht depth _ hdepth hbehind
  rw [unsplit_append, depthThrough_append, hthrough]
  exact ⟨⟨hunsplit, hunsplit'⟩, hthrough'⟩

/-- A character that is neither a bracket nor a comma. -/
theorem nested_singleton (hbracket : c ∉ ['<', '(', '[', '>', ')', ']']) (hcomma : c ≠ ',') :
    Nested [c] := by
  intro depth previous _ _
  simp only [List.mem_cons, List.not_mem_nil, or_false, not_or] at hbracket
  obtain ⟨h₁, h₂, h₃, h₄, h₅, h₆⟩ := hbracket
  simp [Unsplit, depthThrough, depthAfter, hcomma, h₁, h₂, h₃, h₄, h₅, h₆]

/-- A comma is a list. -/
theorem nestedList_comma : NestedList [','] := by
  intro depth previous hdepth _
  have hne : depth ≠ 0 := by omega
  simp [Unsplit, depthThrough, depthAfter, hne]

/-- A text of characters that are neither brackets nor commas. -/
theorem nested_of_forall (h : ∀ c ∈ s, c ∉ ['<', '(', '[', '>', ')', ']', ',']) : Nested s := by
  induction s with
  | nil => exact keepsDepth_nil
  | cons c s ih =>
    rw [List.forall_mem_cons] at h
    have hc := h.1
    simp only [List.mem_cons, List.not_mem_nil, or_false, not_or] at hc
    refine KeepsDepth.append (s := [c]) (nested_singleton (by simp [hc]) (by simp [hc])) (ih h.2) ?_
    rintro - hhead
    cases s with
    | nil => cases hhead
    | cons d s =>
      obtain rfl : d = '>' := Option.some.inj hhead
      exact h.2 '>' List.mem_cons_self (by decide)

/-- Brackets around a nested list. The closing one must not be the end of an arrow. -/
theorem NestedList.enclose {opening closing : Char} (h : NestedList s)
    (hend : Apart s.getLast? [closing]) (hopening : opening ∈ ['<', '(', '['])
    (hclosing : closing ∈ ['>', ')', ']']) : Nested (opening :: s ++ [closing]) := by
  have hopen : opening ≠ ',' ∧ opening ≠ '-' ∧ ∀ previous depth,
      depthAfter false previous depth opening = depth + 1 := by
    simp only [List.mem_cons, List.not_mem_nil, or_false] at hopening
    rcases hopening with rfl | rfl | rfl <;> simp [depthAfter]
  have hclose : closing ≠ ',' ∧ ∀ previous depth, Apart previous [closing] →
      depthAfter false previous depth closing = depth - 1 := by
    simp only [List.mem_cons, List.not_mem_nil, or_false] at hclosing
    rcases hclosing with rfl | rfl | rfl <;> simp +contextual [depthAfter, Apart]
  intro depth previous hdepth _
  obtain ⟨hunsplit, hthrough⟩ := h (depth + 1) (some opening) (by omega) fun hdash =>
    absurd (Option.some.inj hdash) hopen.2.1
  have hprevious : Apart (s.getLast?.or (some opening)) [closing] := by
    cases hs : s.getLast? with
    | none => exact fun hdash => absurd (Option.some.inj hdash) hopen.2.1
    | some c => simpa [hs] using hend
  rw [List.cons_append, Unsplit, depthThrough, hopen.2.2, unsplit_append, depthThrough_append,
    hthrough]
  simp only [Unsplit, depthThrough, hclose.1, hopen.1, hclose.2 _ _ hprevious, false_and,
    not_false_eq_true, and_true, true_and]
  exact ⟨hunsplit, by omega⟩

/-! ## Splits -/

/-- The end of a list with one more element in front is that of the list. -/
theorem getLast?_and_dropLast_cons {α : Type} (a : α) {l : List α} (hl : l ≠ []) :
    (a :: l).getLast? = l.getLast? ∧ (a :: l).dropLast = a :: l.dropLast := by
  obtain ⟨b, l, rfl⟩ := List.exists_cons_of_ne_nil hl
  exact ⟨rfl, rfl⟩

/-- A nested text in front of a comma is the first part of a split. -/
theorem splitTopLevel_append (h : Nested s) (t : List Char) :
    splitTopLevel ',' (s ++ ',' :: t) = trim s :: splitTopLevel ',' t := by
  have hstart : Apart none s := apart_of_ne (by simp) s
  obtain ⟨hunsplit, hthrough⟩ := h 0 none (by omega) hstart
  have hcomma : pieces ',' 0 (s.getLast?.or none) (',' :: t) =
      ([], (pieces ',' 0 none t).1 :: (pieces ',' 0 none t).2) := by
    have hcongr : pieces ',' 0 (some ',') t = pieces ',' 0 none t :=
      pieces_congr (apart_of_ne (by simp) t) (apart_of_ne (by simp) t)
    have hdepth : depthAfter false (s.getLast?.or none) 0 ',' = 0 := rfl
    rw [pieces, hdepth, hcongr]
    simp
  obtain ⟨piece, more, hpieces⟩ : ∃ piece more, pieces ',' 0 none t = (piece, more) := ⟨_, _, rfl⟩
  rw [splitTopLevel, splitTopLevel, pieces_append hunsplit, hthrough, hcomma, hpieces]
  obtain ⟨hlast, hdrop⟩ := getLast?_and_dropLast_cons (trim s) (l := (piece :: more).map trim)
    (by simp)
  simp only [List.append_nil, List.map_cons (l := piece :: more), hlast, hdrop]
  split <;> rfl

/-- A text without separators at depth zero is one piece. -/
theorem pieces_of_unsplit (h : Unsplit separator previous depth s) :
    pieces separator depth previous s = (s, []) := by
  have hpieces := pieces_append h []
  simpa [pieces] using hpieces

/-- A text in which nothing separates is the only part of a split. -/
theorem splitTopLevel_of_unsplit (h : Unsplit separator none 0 s) (hs : trim s ≠ []) :
    splitTopLevel separator s = [trim s] := by
  rw [splitTopLevel, pieces_of_unsplit h]
  simp [hs]

/-- A blank text in which nothing separates has no parts. -/
theorem splitTopLevel_of_blank (h : Unsplit separator none 0 s) (hs : Blank s) :
    splitTopLevel separator s = [] := by
  rw [splitTopLevel, pieces_of_unsplit h]
  simp [trim_eq_nil_iff.mpr hs]

/-- A nested text is the only part of a split. -/
theorem splitTopLevel_of_nested (h : Nested s) (hs : trim s ≠ []) :
    splitTopLevel ',' s = [trim s] :=
  splitTopLevel_of_unsplit (h 0 none (by omega) (apart_of_ne (by simp) s)).1 hs

/-- The arguments of a type stand between its brackets. -/
theorem genericArguments_append (hs : '<' ∉ s) (t : List Char) :
    genericArguments (s ++ '<' :: t ++ ['>']) = splitTopLevel ',' t := by
  have hcut : cutAt? '<' (s ++ '<' :: t ++ ['>']) = some (s, t ++ ['>']) := by
    rw [List.append_assoc, List.cons_append]
    exact cutAt?_append hs _
  rw [genericArguments, hcut]
  simp

end ClassGraph.Text
