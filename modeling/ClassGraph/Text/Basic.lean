import ClassGraph.Text.Character

/-!
# Cutting text

Trimming, words, lines and cuts at a character or at a text, on lists of characters. Each function
here only takes text away; the `length_..._le` lemmas say so, and the recursions on pieces of a
text end by them.
-/

namespace ClassGraph.Text

/-- The text without its longest end on which `p` holds. -/
def dropEndWhile (p : Char → Bool) (s : List Char) : List Char := (s.reverse.dropWhile p).reverse

/-- The text without leading blanks. -/
def trimStart (s : List Char) : List Char := s.dropWhile isSpace

/-- The text without trailing blanks. -/
def trimEnd (s : List Char) : List Char := dropEndWhile isSpace s

/-- The text without leading and trailing blanks. -/
def trim (s : List Char) : List Char := trimEnd (trimStart s)

/-- The text without every copy of `word` in front of it. -/
def dropRepeated (word : List Char) (s : List Char) : List Char :=
  match word.isPrefixOf? s with
  | some rest => if rest.length < s.length then dropRepeated word rest else s
  | none => s
termination_by s.length

/-- The words of a text together with the text's beginning up to the first blank, which is a word
of its own when it is not empty. -/
def wordsFrom : List Char → List Char × List (List Char)
  | [] => ([], [])
  | c :: cs =>
    let (first, more) := wordsFrom cs
    if isSpace c then ([], if first.isEmpty then more else first :: more) else (c :: first, more)

/-- The maximal runs of characters that are no blanks. -/
def words (s : List Char) : List (List Char) :=
  let (first, more) := wordsFrom s
  if first.isEmpty then more else first :: more

/-- The texts in order with `separator` between them. -/
def join (separator : List Char) : List (List Char) → List Char
  | [] => []
  | [s] => s
  | s :: t :: rest => s ++ separator ++ join separator (t :: rest)

/-- The two sides of the first `c`. -/
def cutAt? (c : Char) : List Char → Option (List Char × List Char)
  | [] => none
  | d :: ds => if d = c then some ([], ds) else (cutAt? c ds).map fun (a, b) => (d :: a, b)

/-- The two sides of the first copy of `mark`. -/
def cutAtText? (mark : List Char) : List Char → Option (List Char × List Char)
  | [] => if mark.isEmpty then some ([], []) else none
  | d :: ds =>
    match mark.isPrefixOf? (d :: ds) with
    | some rest => some ([], rest)
    | none => (cutAtText? mark ds).map fun (a, b) => (d :: a, b)

/-- The text in front of the first `c`, or all of it. -/
def beforeChar (c : Char) (s : List Char) : List Char := s.takeWhile (· != c)

/-- The text behind the last `c`, or all of it. -/
def afterLast (c : Char) (s : List Char) : List Char := (s.reverse.takeWhile (· != c)).reverse

/-- The text in front of the first copy of `mark`, or all of it. -/
def beforeText (mark s : List Char) : List Char :=
  match cutAtText? mark s with
  | some (before, _) => before
  | none => s

/-- Whether `mark` occurs in the text. -/
def containsText (mark s : List Char) : Bool := (cutAtText? mark s).isSome

/-- The parts of a text between all the places of a character. -/
def splitAll (c : Char) : List Char → List (List Char)
  | [] => [[]]
  | d :: ds =>
    if d = c then [] :: splitAll c ds
    else
      match splitAll c ds with
      | [] => [[d]]
      | part :: parts => (d :: part) :: parts

/-- The text up to its first line break; a carriage return in front of the break belongs to it. -/
def firstLine (s : List Char) : List Char :=
  match cutAt? '\n' s with
  | some (line, _) => if line.getLast? = some '\r' then line.dropLast else line
  | none => s

/-- The lines of a text, each without its break (a line feed, or a carriage return and a line
feed); a break at the end opens no further line. -/
def lines (s : List Char) : List (List Char) :=
  let rec go (line : List Char) : List Char → List (List Char)
    | [] => if line.isEmpty then [] else [line.reverse]
    | '\n' :: cs => (match line with | '\r' :: l => l | l => l).reverse :: go [] cs
    | c :: cs => go (c :: line) cs
  go [] s

/-- Whether the text starts with `mark`. -/
def startsWith (mark s : List Char) : Bool := mark.isPrefixOf s

/-- A text without some characters at its end is no longer. -/
theorem length_dropEndWhile_le (p : Char → Bool) (s : List Char) :
    (dropEndWhile p s).length ≤ s.length := by
  simpa [dropEndWhile] using (List.dropWhile_sublist p (l := s.reverse)).length_le

/-- A text that is trimmed at its start is no longer. -/
theorem length_trimStart_le (s : List Char) : (trimStart s).length ≤ s.length :=
  (List.dropWhile_sublist _).length_le

/-- A text that is trimmed at its end is no longer. -/
theorem length_trimEnd_le (s : List Char) : (trimEnd s).length ≤ s.length :=
  length_dropEndWhile_le _ _

/-- A trimmed text is no longer. -/
theorem length_trim_le (s : List Char) : (trim s).length ≤ s.length :=
  Nat.le_trans (length_trimEnd_le _) (length_trimStart_le _)

/-- A text is the word that it begins with and what is left of it. -/
theorem append_of_isPrefixOf? {word s rest : List Char} (h : word.isPrefixOf? s = some rest) :
    word ++ rest = s := by
  induction word generalizing s with
  | nil =>
    have h : some s = some rest := h
    exact (Option.some.inj h).symm
  | cons a as ih =>
    cases s with
    | nil =>
      have h : none = some rest := h
      cases h
    | cons b bs =>
      have h : (if a == b then as.isPrefixOf? bs else none) = some rest := h
      by_cases hab : a = b
      · subst hab
        simp only [beq_self_eq_true, if_true] at h
        simp [ih h]
      · simp [hab] at h

/-- A text is what is left of it and the word that it ends with. -/
theorem append_of_isSuffixOf? {word s rest : List Char} (h : word.isSuffixOf? s = some rest) :
    rest ++ word = s := by
  have h : (word.reverse.isPrefixOf? s.reverse).map List.reverse = some rest := h
  obtain ⟨r, hr, rfl⟩ := Option.map_eq_some_iff.mp h
  have := congrArg List.reverse (append_of_isPrefixOf? hr)
  simpa using this

end ClassGraph.Text
