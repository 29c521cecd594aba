import ClassGraph.Source.TokenTree

/-!
# Tokens of Kotlin

A quoted text may hold code between `$` and a closing curly bracket, so its quotes are brackets and
the lexer remembers what it is inside of. Comments nest.
-/

namespace ClassGraph.Source.Kotlin

/-- What the lexer is inside of, besides the outermost code. -/
inductive Mode where
  /-- A group in curly brackets. -/
  | block
  /-- A text between single quotation marks. -/
  | quoted
  /-- A text between triple quotation marks. -/
  | raw
deriving DecidableEq

/-- How many characters a comment has behind its opening marks, inside of `depth` more comments. -/
def commentLength (depth : Nat) : List Char → Nat
  | [] => 0
  | '*' :: '/' :: cs => 2 + if depth = 0 then 0 else commentLength (depth - 1) cs
  | '/' :: '*' :: cs => 2 + commentLength (depth + 1) cs
  | _ :: cs => 1 + commentLength depth cs

/-- How many characters a quoted text has up to a quotation mark or a piece of code. -/
def quotedRun : List Char → Nat
  | [] => 0
  | '\\' :: _ :: cs => 2 + quotedRun cs
  | '$' :: '\x7b' :: _ => 0
  | c :: cs => if c = '"' then 0 else 1 + quotedRun cs

/-- How many characters a raw text has up to its closing marks or a piece of code. Of more than
three quotation marks in a row the last three close it. -/
def rawRun : List Char → Nat
  | [] => 0
  | '$' :: '\x7b' :: _ => 0
  | '"' :: '"' :: '"' :: cs => if cs.head? = some '"' then 1 + rawRun ('"' :: '"' :: cs) else 0
  | _ :: cs => 1 + rawRun cs

/-- How many characters a name in backticks has behind its opening one. -/
def backtickLength (cs : List Char) : Nat :=
  let inner := cs.takeWhile fun c => c != '\x60' && c != '\n'
  inner.length + if cs[inner.length]? = some '\x60' then 1 else 0

/-- What stands at a character of code. -/
def codeLexeme (modes : List Mode) (c : Char) (cs : List Char) : Lexeme (List Mode) :=
  let blank (further : Nat) : Lexeme (List Mode) := ⟨none, further, modes⟩
  let found (kind : TokenKind) (further : Nat) : Lexeme (List Mode) := ⟨some kind, further, modes⟩
  if isBlank c then blank 0
  else if c = '/' ∧ follows "/" cs then blank (lineLength cs)
  else if c = '#' ∧ follows "!" cs then blank (lineLength cs)
  else if c = '/' ∧ follows "*" cs then blank (1 + commentLength 0 (cs.drop 1))
  else if c = '"' ∧ follows "\"\"" cs then ⟨some .opener, 2, .raw :: modes⟩
  else if c = '"' then ⟨some .opener, 0, .quoted :: modes⟩
  else if c = '\'' then found .literal (quotedLength c cs)
  else if c = '\x60' then found .word (backtickLength cs)
  else if c = '\x7b' then ⟨some .opener, 0, .block :: modes⟩
  else if c = '\x7d' then ⟨some .closer, 0, modes.tail⟩
  else if isOpener c then found .opener 0
  else if isCloser c then found .closer 0
  else if isWordChar c then found .word (cs.takeWhile isWordChar).length
  else if c = '-' ∧ follows ">" cs then found .symbol 1
  else if c = ':' ∧ follows ":" cs then found .symbol 1
  else found .symbol 0

/-- What stands at a character of a text that ends at `mark`. -/
def textLexeme (mark : String) (run : List Char → Nat) (modes : List Mode) (c : Char)
    (cs : List Char) : Lexeme (List Mode) :=
  if c = '$' ∧ follows "\x7b" cs then ⟨some .opener, 1, .block :: modes⟩
  else
    match run (c :: cs) with
    | 0 => ⟨some .closer, mark.length - 1, modes.tail⟩
    | further + 1 => ⟨some .literal, further, modes⟩

/-- What stands at a character. -/
def lexeme (modes : List Mode) (c : Char) (cs : List Char) : Lexeme (List Mode) :=
  match modes.head? with
  | some .quoted => textLexeme "\"" quotedRun modes c cs
  | some .raw => textLexeme "\"\"\"" rawRun modes c cs
  | _ => codeLexeme modes c cs

/-- The trees of a source text. -/
def trees (source : String) : List TokenTree :=
  TokenTree.ofTokens (scan lexeme [] [] source.toList)

end ClassGraph.Source.Kotlin
