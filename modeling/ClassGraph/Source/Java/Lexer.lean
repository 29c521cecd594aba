import ClassGraph.Source.TokenTree

/-!
# Tokens of Java

Words, texts, characters and text blocks, brackets and symbols. Angle brackets are single symbols,
so that nested type arguments close one by one.
-/

namespace ClassGraph.Source.Java

/-- How many characters a comment has behind its opening marks. -/
def commentLength : List Char → Nat
  | [] => 0
  | '*' :: '/' :: _ => 2
  | _ :: cs => 1 + commentLength cs

/-- Whether a character may stand in a word. -/
def isNamePart (c : Char) : Bool := isWordChar c || c == '$'

/-- A token of a kind. -/
def found (kind : TokenKind) (further : Nat) : Lexeme Unit := ⟨some kind, further, ()⟩

/-- What stands at a character. -/
def lexeme (_ : Unit) (c : Char) (cs : List Char) : Lexeme Unit :=
  if isBlank c then ⟨none, 0, ()⟩
  else if c = '/' ∧ follows "/" cs then ⟨none, lineLength cs, ()⟩
  else if c = '/' ∧ follows "*" cs then ⟨none, 1 + commentLength (cs.drop 1), ()⟩
  else if c = '"' ∧ follows "\"\"" cs then found .literal (2 + textBlockLength (cs.drop 2))
  else if c = '"' ∨ c = '\'' then found .literal (quotedLength c cs)
  else if isOpener c then found .opener 0
  else if isCloser c then found .closer 0
  else if isNamePart c then found .word (cs.takeWhile isNamePart).length
  else if c = '-' ∧ follows ">" cs then found .symbol 1
  else if c = ':' ∧ follows ":" cs then found .symbol 1
  else if c = '.' ∧ follows ".." cs then found .symbol 2
  else found .symbol 0

/-- The trees of a source text. -/
def trees (source : String) : List TokenTree :=
  TokenTree.ofTokens (scan lexeme () [] source.toList)

end ClassGraph.Source.Java
