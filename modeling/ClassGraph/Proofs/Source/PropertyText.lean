import ClassGraph.Proofs.Source.TypeParameter
import ClassGraph.Proofs.Text.Grouped
import ClassGraph.Proofs.Text.Lines
import ClassGraph.Source.Kotlin.Model

/-!
# Texts of properties

The text of a property is cut in a fixed order: at its `=`, in front of the word `by`, at its first
line break, and then at its `:`. What is left in front has to hold the keyword and the name.
`property?_of_cut` and `property?_of_none` say so step by step: a line of the text declares the
property (`declared?`), and the words in front of the colon name it (`named?`).

Words that declare nothing may stand in front of a declaration (`Passed`): they become modifiers
(`property?_append`), unless one of the cuts goes through them.
-/

namespace ClassGraph.Source.Kotlin

open Text TypeSyntax

/-- The word declares a property. -/
def isKeyword (word : List Char) : Bool := word == "val".toList || word == "var".toList

/-- The property that words declare, with a type and a value. -/
def named? (words : List (List Char)) (type value : Option (List Char)) : Option Property :=
  match words.dropWhile (!isKeyword ·) with
  | keyword :: name :: _ =>
    if name.contains '.' then none
    else some {
      modifiers := words.takeWhile (!isKeyword ·)
      isMutable := keyword == "var".toList
      name, type, value }
  | _ => none

/-- The property that a line declares, with a value. -/
def declared? (line : List Char) (value : Option (List Char)) : Option Property :=
  match cutTopLevel? ':' line with
  | some (front, type) => named? (plainWords front) ((some (trim type)).filter (· ≠ [])) value
  | none => named? (plainWords line) none value

/-- The mark of a property that another object stands for. -/
def byMark : List Char := " by ".toList

/-- The line that declares the property in a text without its value. -/
def headLine (s : List Char) : List Char := firstLine (beforeText byMark s)

/-- The line of a declaration ends in the text. -/
def EndsLine (s : List Char) : Prop := '\n' ∈ s ∨ byMark <:+: s

/-- A text that declares nothing and leaves the marks of a declaration behind it alone. -/
structure Passed (pre : List Char) : Prop where
  /-- The marks of a type and of a value stand inside of brackets. -/
  grouped : Grouped ['=', ':'] pre
  /-- A blank stands behind it. -/
  blank : ∃ c ∈ pre.getLast?, isSpace c = true
  /-- Its words are no keywords. -/
  plain : ∀ word ∈ words pre, isKeyword word = false

variable {s t w pre head value line d : List Char} {words : List (List Char)} {p : Property}
  {c : Char}

/-! ## The steps of the reading -/

/-- Behind the words that are no keyword, the other words follow. -/
theorem getElem?_takeWhile (words : List (List Char)) (n : Nat) :
    words[(words.takeWhile (!isKeyword ·)).length + n]? =
      (words.dropWhile (!isKeyword ·))[n]? := by
  have hbehind (front back : List (List Char)) : (front ++ back)[front.length + n]? = back[n]? := by
    rw [List.getElem?_append_right (Nat.le_add_right _ n), Nat.add_sub_cancel_left]
  have hread := hbehind (words.takeWhile (!isKeyword ·)) (words.dropWhile (!isKeyword ·))
  rwa [List.takeWhile_append_dropWhile] at hread

/-- A property is named by the two words behind its modifiers. -/
theorem named?_eq (words : List (List Char)) (type value : Option (List Char)) :
    named? words type value = do
      let modifiers := words.takeWhile (!isKeyword ·)
      let keyword ← words[modifiers.length]?
      let name ← words[modifiers.length + 1]?
      if name.contains '.' then none
      return { modifiers, isMutable := keyword == "var".toList, name, type, value } := by
  have hkeyword := getElem?_takeWhile words 0
  have hname := getElem?_takeWhile words 1
  rw [Nat.add_zero] at hkeyword
  simp only [hkeyword, hname, named?]
  rcases words.dropWhile (!isKeyword ·) with _ | ⟨keyword, _ | ⟨name, rest⟩⟩
  · rfl
  · rfl
  · simp only [List.getElem?_cons_zero, List.getElem?_cons_succ]
    by_cases hdot : '.' ∈ name <;> simp [hdot]

/-- The text is cut at its `=`, and a line of what is left declares the property. -/
theorem property?_of_cut (h : cutTopLevel? '=' s = some (head, value)) :
    property? s = declared? (headLine head) (some (trim value)) := by
  have hline : firstLine (beforeText " by ".toList head) = headLine head := rfl
  rw [property?, h, declared?]
  simp only [hline]
  cases cutTopLevel? ':' (headLine head) <;> exact (named?_eq _ _ _).symm

/-- A text without a value is read as a declaration on its first line. -/
theorem property?_of_none (h : cutTopLevel? '=' s = none) :
    property? s = declared? (headLine s) none := by
  have hline : firstLine (beforeText " by ".toList s) = headLine s := rfl
  rw [property?, h, declared?]
  simp only [hline]
  cases cutTopLevel? ':' (headLine s) <;> exact (named?_eq _ _ _).symm

/-- The line that declares the property is one of the beginning of the text. -/
theorem exists_declared?_append (hpre : Grouped ['='] pre) (hlast : Neutral pre.getLast?)
    (d : List Char) :
    ∃ head value, head <+: d ∧ property? d = declared? (headLine head) value ∧
      property? (pre ++ d) = declared? (headLine (pre ++ head)) value := by
  have happend := cutTopLevel?_append hpre (by decide) hlast d
  cases hcut : cutTopLevel? '=' d with
  | none =>
    rw [hcut, Option.map_none] at happend
    exact ⟨d, none, List.prefix_rfl, property?_of_none hcut, property?_of_none happend⟩
  | some cut =>
    obtain ⟨head, value⟩ := cut
    rw [hcut, Option.map_some] at happend
    have hd : head ++ '=' :: value = d := append_of_cutTopLevel? hcut
    exact ⟨head, some (trim value), ⟨_, hd⟩, property?_of_cut hcut, property?_of_cut happend⟩

/-! ## Words without a keyword -/

/-- Words without a keyword name no property. -/
theorem named?_eq_none (h : ∀ word ∈ words, isKeyword word = false)
    (type value : Option (List Char)) : named? words type value = none := by
  have hdrop : words.dropWhile (!isKeyword ·) = [] :=
    List.dropWhile_eq_nil_iff.mpr fun word hword => by simp [h word hword]
  rw [named?, hdrop]

/-- Words without a keyword are modifiers of what is declared behind them. -/
theorem named?_append (h : ∀ word ∈ words, isKeyword word = false) (more : List (List Char))
    (type value : Option (List Char)) :
    named? (words ++ more) type value =
      (named? more type value).map fun p => { p with modifiers := words ++ p.modifiers } := by
  have hall : ∀ word ∈ words, (!isKeyword word) = true := fun word hword => by simp [h word hword]
  rw [named?, named?, List.dropWhile_append_of_pos hall, List.takeWhile_append_of_pos hall]
  rcases more.dropWhile (!isKeyword ·) with _ | ⟨keyword, _ | ⟨name, rest⟩⟩
  · rfl
  · rfl
  · by_cases hdot : name.contains '.' = true
    · simp only [if_pos hdot, Option.map_none]
    · simp only [if_neg hdot, Option.map_some]

/-- The words of two texts with a blank between them are words one behind the other. -/
theorem plainWords_append (h : ∃ c ∈ s.getLast?, isSpace c = true) (t : List Char) :
    plainWords (s ++ t) = plainWords s ++ plainWords t := by
  rw [plainWords, words_append_of_last h, List.filter_append, plainWords, plainWords]

/-- What stands in front of a line without ending it adds its words to the modifiers. -/
theorem declared?_append (hpre : Grouped [':'] pre)
    (hlast : ∃ c ∈ pre.getLast?, isSpace c = true)
    (hwords : ∀ word ∈ plainWords pre, isKeyword word = false)
    (line : List Char) (value : Option (List Char)) :
    declared? (pre ++ line) value =
      (declared? line value).map fun p =>
        { p with modifiers := plainWords pre ++ p.modifiers } := by
  obtain ⟨c, hc, hspace⟩ := hlast
  have hneutral : Neutral pre.getLast? := hc ▸ neutral_of_isSpace hspace
  rw [declared?, declared?, cutTopLevel?_append hpre (by decide) hneutral]
  cases cutTopLevel? ':' line <;>
    exact (congrArg (named? · _ _) (plainWords_append ⟨c, hc, hspace⟩ _)).trans
      (named?_append hwords _ _ _)

/-! ## The line of a declaration -/

/-- A text in which no line ends is its own first line. -/
theorem headLine_eq_self (h : ¬ EndsLine s) : headLine s = s := by
  rw [EndsLine, not_or] at h
  rw [headLine, beforeText_eq_self h.2, firstLine_eq_self h.1]

/-- The line goes on over a text in which nothing ends it. -/
theorem headLine_append (h : ¬ EndsLine s) (hlast : ∀ c ∈ s.getLast?, isSpace c = true)
    (ht : ¬ "by ".toList <+: t) (hne : headLine t ≠ []) :
    headLine (s ++ t) = s ++ headLine t := by
  rw [EndsLine, not_or] at h
  have hword : ∀ c ∈ "by".toList, isSpace c = false := forall_mem_of_all (by decide)
  have hbefore : beforeText byMark (s ++ t) = s ++ beforeText byMark t :=
    beforeText_append_of_word hword h.2 hlast ht
  rw [headLine, headLine, hbefore]
  refine firstLine_append h.1 fun hbreak => hne ?_
  obtain ⟨rest, hrest⟩ := List.head?_eq_some_iff.mp hbreak
  rw [headLine, hrest]
  rfl

/-- A text without blanks is not cut. -/
theorem exists_headLine_word (hs : ∀ c ∈ s, isSpace c = false) (t : List Char) :
    ∃ more, headLine (s ++ t) = s ++ more := by
  have hbefore : beforeText byMark (s ++ t) = s ++ beforeText byMark t := by
    refine beforeText_append fun u hu hne hmark => ?_
    obtain ⟨c, u, rfl⟩ := List.exists_cons_of_ne_nil hne
    obtain rfl : ' ' = c := (List.cons_prefix_cons.mp hmark).1
    exact absurd (hs ' ' (hu.subset List.mem_cons_self)) (by decide)
  have hline : '\n' ∉ s := fun hmem => absurd (hs '\n' hmem) (by decide)
  have hlast : s.getLast? ≠ some '\r' := fun hreturn =>
    absurd (hs '\r' (List.mem_of_getLast? hreturn)) (by decide)
  exact ⟨_, by rw [headLine, hbefore, firstLine_append_of_last hline hlast]⟩

/-- A line that is ended ends at a blank. -/
theorem exists_headLine_append (h : EndsLine s) (t : List Char) :
    ∃ c rest, isSpace c = true ∧ s = headLine (s ++ t) ++ c :: rest := by
  by_cases hby : byMark <:+: s
  · obtain ⟨rest, hrest⟩ := exists_beforeText_append hby t
    by_cases hline : '\n' ∈ beforeText byMark (s ++ t)
    · obtain ⟨c, rest', hc, hfirst⟩ := exists_firstLine_append hline []
      rw [List.append_nil] at hfirst
      refine ⟨c, rest' ++ (byMark ++ rest), hc, ?_⟩
      conv_lhs => rw [hrest, hfirst]
      simp [headLine]
    · refine ⟨' ', "by ".toList ++ rest, by decide, ?_⟩
      rw [headLine, firstLine_eq_self hline]
      simpa [byMark] using hrest
  · obtain ⟨line, rest, rfl, hline⟩ := List.eq_append_cons_of_mem (h.resolve_right hby)
    have hfront : ¬ byMark <:+: line := fun hmark =>
      hby (hmark.trans (List.prefix_append _ _).isInfix)
    have hbefore : beforeText byMark (line ++ '\n' :: (rest ++ t)) =
        line ++ '\n' :: beforeText byMark (rest ++ t) :=
      beforeText_append_cons hfront (by decide) _
    have hmem : '\n' ∈ line ++ ['\n'] := by simp
    obtain ⟨c, rest', hc, hfirst⟩ := exists_firstLine_append hmem (beforeText byMark (rest ++ t))
    rw [List.append_assoc, List.singleton_append, ← hbefore] at hfirst
    refine ⟨c, rest' ++ rest, hc, ?_⟩
    calc line ++ '\n' :: rest = line ++ ['\n'] ++ rest := by simp
      _ = headLine (line ++ '\n' :: (rest ++ t)) ++ c :: rest' ++ rest := by rw [hfirst, headLine]
      _ = headLine (line ++ '\n' :: rest ++ t) ++ c :: (rest' ++ rest) := by simp

/-! ## Texts in front of a declaration -/

/-- No word of a text that is passed over is a keyword. -/
theorem Passed.plainWords (h : Passed pre) : ∀ word ∈ plainWords pre, isKeyword word = false :=
  fun word hword => h.plain word (List.mem_filter.mp hword).1

/-- A declaration behind a text that is passed over is read up to the same place as on its own, on
its first line. -/
theorem Passed.exists_declared? (h : Passed pre) (d : List Char) :
    ∃ head value, head <+: d ∧ property? d = declared? (headLine head) value ∧
      property? (pre ++ d) = declared? (headLine (pre ++ head)) value := by
  obtain ⟨c, hc, hspace⟩ := h.blank
  exact exists_declared?_append (h.grouped.mono (by simp)) (hc ▸ neutral_of_isSpace hspace) d

/-- In front of a declaration on its line, a text adds its words to the modifiers. -/
theorem Passed.property?_append (h : Passed pre) (hline : ¬ EndsLine pre)
    (hd : ¬ "by ".toList <+: d) (hp : property? d = some p) :
    property? (pre ++ d) =
      some { p with modifiers := Kotlin.plainWords pre ++ p.modifiers } := by
  obtain ⟨head, value, hhead, hread, hread'⟩ := h.exists_declared? d
  obtain ⟨c, hc, hspace⟩ := h.blank
  have hlast : ∀ c ∈ pre.getLast?, isSpace c = true := by
    rw [hc]
    rintro c ⟨rfl⟩
    exact hspace
  rw [hp] at hread
  have hne : headLine head ≠ [] := by
    intro hnil
    rw [hnil] at hread
    cases hread
  rw [hread', headLine_append hline hlast (fun hmark => hd (hmark.trans hhead)) hne,
    declared?_append (h.grouped.mono (by simp)) h.blank h.plainWords, ← hread, Option.map_some]

/-- A text through which the line of the declaration ends hides the declaration. -/
theorem Passed.property?_eq_none (h : Passed pre) (hbreak : EndsLine pre) (d : List Char) :
    property? (pre ++ d) = none := by
  obtain ⟨head, value, -, -, hread⟩ := h.exists_declared? d
  obtain ⟨c, rest, hc, hpre⟩ := exists_headLine_append hbreak head
  have hgrouped : Grouped [':'] pre := h.grouped.mono (by simp)
  have hnone : cutTopLevel? ':' (headLine (pre ++ head)) = none := by
    refine cutTopLevel?_eq_none_of_append (t := c :: rest) (by decide) ?_
    rw [← hpre]
    exact cutTopLevel?_eq_none hgrouped (by decide)
  rw [hread, declared?, hnone]
  refine named?_eq_none (fun word hword => h.plain word ?_) _ _
  rw [hpre, words_append_cons hc]
  exact List.mem_append_left _ (List.mem_filter.mp hword).1

end ClassGraph.Source.Kotlin
