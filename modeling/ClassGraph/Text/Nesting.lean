import ClassGraph.Text.Basic

/-!
# Nesting of brackets

Type texts and parameter lists are cut at separators that stand outside all brackets. Angle
brackets count, but the `>` of an arrow `->` closes nothing, and the depth may fall below zero:
a text need not be well nested. `length_le_of_mem_splitTopLevel` bounds the parts of a split and
`length_lt_of_mem_genericArguments` those of an argument list, so that recursion on them ends.
-/

namespace ClassGraph.Text

/-- The depth behind `c`, which stands at `depth` behind the character `previous`. Curly brackets
count when `curly` is set. -/
def depthAfter (curly : Bool) (previous : Option Char) (depth : Int) (c : Char) : Int :=
  if c = '<' ∨ c = '(' ∨ c = '[' ∨ (curly ∧ c = '{') then depth + 1
  else if c = '>' ∧ previous = some '-' then depth
  else if c = '>' ∨ c = ')' ∨ c = ']' ∨ (curly ∧ c = '}') then depth - 1
  else depth

/-- The pieces between the separators that stand at depth zero, as written. -/
def pieces (separator : Char) (depth : Int) (previous : Option Char) :
    List Char → List Char × List (List Char)
  | [] => ([], [])
  | c :: cs =>
    let (piece, more) := pieces separator (depthAfter false previous depth c) (some c) cs
    if c = separator ∧ depth = 0 then ([], piece :: more) else (c :: piece, more)

/-- The trimmed pieces of a text between the separators outside of `<>`, `()` and `[]`. A last
piece that is blank does not count. -/
def splitTopLevel (separator : Char) (s : List Char) : List (List Char) :=
  let (piece, more) := pieces separator 0 none s
  let all := (piece :: more).map trim
  if all.getLast? = some [] then all.dropLast else all

/-- Whether the `=` between `previous` and `rest` is part of a comparison. -/
def isComparison (previous : Option Char) (rest : List Char) : Bool :=
  previous == some '!' || previous == some '<' || previous == some '>' || previous == some '=' ||
    rest.head? == some '='

/-- The two sides of the first separator outside of all brackets. An `=` that is part of `==`,
`!=`, `<=` or `>=` does not separate. -/
def cutTopLevel? (separator : Char) (s : List Char) : Option (List Char × List Char) :=
  go 0 none s
where
  /-- The cut of the rest of a text at `depth` behind the character `previous`. -/
  go (depth : Int) (previous : Option Char) : List Char → Option (List Char × List Char)
    | [] => none
    | c :: cs =>
      if c = separator ∧ depth = 0 ∧ ¬(separator = '=' ∧ isComparison previous cs = true) then
        some ([], cs)
      else
        (go (depthAfter true previous depth c) (some c) cs).map fun (a, b) => (c :: a, b)

/-- The text between the first `<` and the last `>` behind it, or the end, split at its commas;
nothing for a text without `<`. -/
def genericArguments (s : List Char) : List (List Char) :=
  match cutAt? '<' s with
  | none => []
  | some (_, inner) =>
    splitTopLevel ',' <| if inner.contains '>' then
      ((inner.reverse.dropWhile (· != '>')).drop 1).reverse else inner

/-- The text in front of the first `<`. -/
def genericBase (s : List Char) : List Char := beforeChar '<' s

/-- No piece of a text is longer than the text. -/
theorem pieces_length_le (separator : Char) (depth : Int) (previous : Option Char)
    (s : List Char) :
    ∀ p ∈ (pieces separator depth previous s).1 :: (pieces separator depth previous s).2,
      p.length ≤ s.length := by
  induction s generalizing depth previous with
  | nil => simp [pieces]
  | cons c cs ih =>
    have ih := ih (depthAfter false previous depth c) (some c)
    intro p hp
    simp only [pieces] at hp
    split at hp
    · rcases List.mem_cons.1 hp with rfl | hp
      · simp
      · exact Nat.le_succ_of_le (ih p hp)
    · rcases List.mem_cons.1 hp with rfl | hp
      · have := ih _ (List.mem_cons_self ..)
        simpa using this
      · exact Nat.le_succ_of_le (ih p (List.mem_cons_of_mem _ hp))

/-- No part of a split is longer than the text. -/
theorem length_le_of_mem_splitTopLevel {separator : Char} {s p : List Char}
    (h : p ∈ splitTopLevel separator s) : p.length ≤ s.length := by
  have hall : p ∈ ((pieces separator 0 none s).1 :: (pieces separator 0 none s).2).map trim := by
    simp only [splitTopLevel] at h
    split at h
    · exact (List.dropLast_sublist _).subset h
    · exact h
  obtain ⟨q, hq, rfl⟩ := List.mem_map.1 hall
  exact Nat.le_trans (length_trim_le q) (pieces_length_le _ _ _ _ q hq)

/-- A text that is cut at a character is what stands in front of it, the character, and what stands
behind it. -/
theorem cutAt?_eq_some {c : Char} {s a b : List Char} (h : cutAt? c s = some (a, b)) :
    s = a ++ c :: b := by
  induction s generalizing a with
  | nil => simp [cutAt?] at h
  | cons d ds ih =>
    by_cases hd : d = c
    · simp_all [cutAt?]
    · simp only [cutAt?, hd, ↓reduceIte, Option.map_eq_some_iff] at h
      obtain ⟨⟨a', b'⟩, h', heq⟩ := h
      simp only [Prod.mk.injEq] at heq
      obtain ⟨rfl, rfl⟩ := heq
      simp [ih h']

/-- Every generic argument is shorter than the text it stands in. -/
theorem length_lt_of_mem_genericArguments {s p : List Char} (h : p ∈ genericArguments s) :
    p.length < s.length := by
  unfold genericArguments at h
  split at h
  · simp at h
  · next a inner hcut =>
    have hs := cutAt?_eq_some hcut
    have hp := length_le_of_mem_splitTopLevel h
    have hi : (if inner.contains '>' then
        ((inner.reverse.dropWhile (· != '>')).drop 1).reverse
        else inner).length ≤ inner.length := by
      split
      · have := (List.dropWhile_sublist (· != '>') (l := inner.reverse)).length_le
        simp only [List.length_reverse, List.length_drop] at this ⊢
        omega
      · exact Nat.le_refl _
    have : s.length = a.length + (inner.length + 1) := by simp [hs]
    omega

end ClassGraph.Text
