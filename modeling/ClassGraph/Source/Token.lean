import ClassGraph.Text.Basic

/-!
# Tokens

A source text is a sequence of tokens with gaps of blanks and comments between them. Nothing is
lost: `written_scan` says that the tokens, written with their gaps, are the beginning of the text,
and what is missing at its end is a gap.
-/

namespace ClassGraph.Source

/-- The kind of a token. -/
inductive TokenKind where
  /-- A name, a keyword or a number. -/
  | word
  /-- A text or character between quotes. -/
  | literal
  /-- A bracket that opens. -/
  | opener
  /-- A bracket that closes. -/
  | closer
  /-- Anything else. -/
  | symbol
deriving DecidableEq, Repr, Inhabited

/-- A token with the gap in front of it. -/
structure Token where
  /-- The blanks and comments in front. -/
  gap : String
  /-- The kind. -/
  kind : TokenKind
  /-- The characters. -/
  text : String
deriving DecidableEq, Repr, Inhabited

/-- What a lexer finds at a character, and the state behind it. -/
structure Lexeme (σ : Type) where
  /-- The kind of the token; none for a part of a gap. -/
  kind : Option TokenKind
  /-- How many characters belong to it besides the first. -/
  further : Nat
  /-- The state of the lexer behind it. -/
  next : σ

/-- The tokens of a text, as `step` finds them from a state on, with `gap` in front of the
first. -/
def scan {σ : Type} (step : σ → Char → List Char → Lexeme σ) (state : σ) (gap : List Char) :
    List Char → List Token
  | [] => []
  | c :: cs =>
    let found := step state c cs
    let text := c :: cs.take found.further
    match found.kind with
    | none => scan step found.next (gap ++ text) (cs.drop found.further)
    | some kind =>
      ⟨String.ofList gap, kind, String.ofList text⟩ ::
        scan step found.next [] (cs.drop found.further)
termination_by s => s.length
decreasing_by all_goals simp only [List.length_drop, List.length_cons]; omega

/-- A token as it is written, behind its gap. -/
def Token.written (t : Token) : String := t.gap ++ t.text

/-- The tokens of a text with their gaps are a beginning of the text. -/
theorem written_scan {σ : Type} (step : σ → Char → List Char → Lexeme σ) (state : σ)
    (gap s : List Char) :
    ((scan step state gap s).flatMap fun t => t.written.toList) <+: gap ++ s := by
  fun_induction scan step state gap s with
  | case1 => simp
  | case2 state gap c cs found text hkind ih =>
    refine ih.trans ?_
    simp [text]
  | case3 state gap c cs found text kind hkind ih =>
    obtain ⟨rest, hrest⟩ := ih
    refine ⟨rest, ?_⟩
    rw [List.flatMap_cons, List.append_assoc, hrest]
    simp [Token.written, text]

/-- Whether the rest of a text starts with the characters of `mark`. -/
def follows (mark : String) (cs : List Char) : Bool := mark.toList.isPrefixOf cs

/-- How many characters a quoted text has behind its opening quote. A backslash keeps the next
character from closing it; a line break ends a text that is not closed. -/
def quotedLength (quote : Char) : List Char → Nat
  | [] => 0
  | '\\' :: _ :: cs => 2 + quotedLength quote cs
  | c :: cs => if c = quote then 1 else if c = '\n' then 0 else 1 + quotedLength quote cs

/-- How many characters a text over several lines has behind its three opening quotes. -/
def textBlockLength : List Char → Nat
  | [] => 0
  | '\\' :: _ :: cs => 2 + textBlockLength cs
  | '"' :: '"' :: '"' :: _ => 3
  | _ :: cs => 1 + textBlockLength cs

/-- How many characters are left on a line. -/
def lineLength (cs : List Char) : Nat := (cs.takeWhile (· != '\n')).length

/-- Whether a character is one of the opening brackets. -/
def isOpener (c : Char) : Bool := c == '(' || c == '[' || c == '\x7b'

/-- Whether a character is one of the closing brackets. -/
def isCloser (c : Char) : Bool := c == ')' || c == ']' || c == '\x7d'

/-- A blank of a source text; a byte order mark is one. -/
def isBlank (c : Char) : Bool := Text.isSpace c || c == '\ufeff'

/-- Whether a character may stand in a word: an ASCII letter or digit, an underscore, and anything
beyond ASCII that is no blank. -/
def isWordChar (c : Char) : Bool :=
  c.isAlphanum || c == '_' || (128 ≤ c.toNat && !isBlank c)

end ClassGraph.Source
