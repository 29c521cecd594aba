import ClassGraph.Source.Token

/-!
# Bracket trees

Tokens are grouped by their brackets. A closing bracket without its opening one stands for itself,
and an opening one that is never closed holds all that follows. `written_ofTokens` says that
grouping keeps the text.
-/

namespace ClassGraph.Source

/-- A token, or a pair of brackets with what stands between them. -/
inductive TokenTree where
  /-- A token. -/
  | leaf (t : Token)
  /-- A group between brackets, the second of which may be missing. -/
  | group (opener : Token) (children : List TokenTree) (closer : Option Token)
deriving Inhabited

namespace TokenTree

mutual

/-- A tree as it is written, behind its gap. -/
def written : TokenTree → String
  | .leaf t => t.written
  | .group opener children closer =>
    opener.written ++ writtenAll children ++ closer.elim "" Token.written

/-- Trees as they are written, each behind its gap. -/
def writtenAll : List TokenTree → String
  | [] => ""
  | t :: ts => t.written ++ writtenAll ts

end

/-- The token that a tree starts with. -/
def first : TokenTree → Token
  | .leaf t => t
  | .group opener _ _ => opener

/-- The text of trees from their first character to their last. -/
def text (trees : List TokenTree) : List Char :=
  match trees with
  | [] => []
  | t :: _ => (writtenAll trees).toList.drop t.first.gap.toList.length

/-- The trees between the brackets of a group. -/
def children : TokenTree → List TokenTree
  | .leaf _ => []
  | .group _ children _ => children

/-- The word that a tree is. -/
def word? : TokenTree → Option String
  | .leaf t => if t.kind = .word then some t.text else none
  | .group .. => none

/-- Whether a tree is a given word. -/
def isWord (w : String) (t : TokenTree) : Bool := t.word? == some w

/-- Whether a tree is one of some words. -/
def isWordIn (words : List String) (t : TokenTree) : Bool := t.word?.any words.contains

/-- The name that a tree is: a word that does not start with a digit. -/
def name? (t : TokenTree) : Option String :=
  t.word?.filter fun w => !(w.toList.head?.any Char.isDigit)

/-- Whether a tree is a given symbol. -/
def isSymbol (s : String) : TokenTree → Bool
  | .leaf t => t.kind == .symbol && t.text == s
  | .group .. => false

/-- Whether a tree is one of some symbols. -/
def isSymbolIn (symbols : List String) : TokenTree → Bool
  | .leaf t => t.kind == .symbol && symbols.contains t.text
  | .group .. => false

/-- Whether a tree is a quoted text. -/
def isLiteral : TokenTree → Bool
  | .leaf t => t.kind == .literal
  | .group .. => false

/-- Whether a tree is a group that starts with a given bracket. -/
def isGroup (bracket : Char) : TokenTree → Bool
  | .leaf _ => false
  | .group opener _ _ => opener.text.toList == [bracket]

/-- Whether a line break stands in front of a tree. -/
def startsLine (t : TokenTree) : Bool := t.first.gap.contains '\n'

/-- Whether nothing stands in front of a tree. -/
def isTight (t : TokenTree) : Bool := t.first.gap.isEmpty

/-- Whether a tree is a group in parentheses. -/
def isParens (t : TokenTree) : Bool := t.isGroup '('

/-- Whether a tree is a group in square brackets. -/
def isSquare (t : TokenTree) : Bool := t.isGroup '['

/-- Whether a tree is a group in curly brackets. -/
def isBlock (t : TokenTree) : Bool := t.isGroup '\x7b'

/-- Whether two brackets belong together. -/
def pairs (opener closer : Token) : Bool :=
  match opener.text, closer.text with
  | "(", ")" | "[", "]" | "\x7b", "\x7d" | "$\x7b", "\x7d" | "\"", "\""
  | "\"\"\"", "\"\"\"" => true
  | _, _ => false

/-- The groups that are open, innermost first, each with what it holds so far in reverse, and what
stands outside of all of them. -/
structure Builder where
  /-- The open groups. -/
  opened : List (Token × List TokenTree) := []
  /-- The trees outside, in reverse. -/
  outside : List TokenTree := []

namespace Builder

/-- One more tree in the innermost group. -/
def add (b : Builder) (t : TokenTree) : Builder :=
  match b.opened with
  | [] => { b with outside := t :: b.outside }
  | (opener, held) :: more => { b with opened := (opener, t :: held) :: more }

/-- The groups behind one more token. -/
def step (b : Builder) (t : Token) : Builder :=
  match t.kind with
  | .opener => { b with opened := (t, []) :: b.opened }
  | .closer =>
    match b.opened with
    | (opener, held) :: more =>
      if pairs opener t then add { b with opened := more } (.group opener held.reverse (some t))
      else b.add (.leaf t)
    | [] => b.add (.leaf t)
  | _ => b.add (.leaf t)

/-- All trees, with `inner` at the end of the innermost group and the open groups around what they
hold. -/
def finish (outside : List TokenTree) :
    List (Token × List TokenTree) → List TokenTree → List TokenTree
  | [], inner => outside.reverse ++ inner
  | (opener, held) :: more, inner =>
    finish outside more [.group opener (held.reverse ++ inner) none]

end Builder

/-- The trees of a list of tokens. -/
def ofTokens (tokens : List Token) : List TokenTree :=
  let b := tokens.foldl Builder.step {}
  Builder.finish b.outside b.opened []

/-- Trees one behind the other are written one behind the other. -/
theorem writtenAll_append (a b : List TokenTree) :
    writtenAll (a ++ b) = writtenAll a ++ writtenAll b := by
  induction a with
  | nil => simp [writtenAll]
  | cons t ts ih => simp [writtenAll, ih, String.append_assoc]

/-- The text of all that a builder holds: what is outside, then the open groups from the outermost
in. -/
def Builder.written (opened : List (Token × List TokenTree)) (outside : List TokenTree) : String :=
  match opened with
  | [] => writtenAll outside.reverse
  | (opener, held) :: more =>
    Builder.written more outside ++ opener.written ++ writtenAll held.reverse

/-- A tree that is added is written behind what has been built. -/
theorem Builder.written_add (b : Builder) (t : TokenTree) :
    Builder.written (b.add t).opened (b.add t).outside =
      Builder.written b.opened b.outside ++ t.written := by
  unfold Builder.add
  split
  · next h => simp [h, Builder.written, writtenAll_append, writtenAll]
  · next h => simp [h, Builder.written, writtenAll_append, writtenAll, String.append_assoc]

/-- A token that is taken is written behind what has been built. -/
theorem Builder.written_step (b : Builder) (t : Token) :
    Builder.written (b.step t).opened (b.step t).outside =
      Builder.written b.opened b.outside ++ t.written := by
  unfold Builder.step
  split
  · simp [Builder.written, writtenAll]
  · split
    · next opener held more h =>
      split
      · rw [Builder.written_add]
        simp [h, Builder.written, TokenTree.written, String.append_assoc]
      · rw [Builder.written_add]
        simp [TokenTree.written]
    · rw [Builder.written_add]
      simp [TokenTree.written]
  · rw [Builder.written_add]
    simp [TokenTree.written]

/-- What is finished is written as it was built, with brackets that are open left open. -/
theorem Builder.written_finish (outside : List TokenTree) (opened : List (Token × List TokenTree))
    (inner : List TokenTree) :
    writtenAll (Builder.finish outside opened inner) =
      Builder.written opened outside ++ writtenAll inner := by
  induction opened generalizing inner with
  | nil => simp [Builder.finish, Builder.written, writtenAll_append]
  | cons group more ih =>
    simp [Builder.finish, ih, Builder.written, writtenAll, TokenTree.written, writtenAll_append,
      String.append_assoc]

/-- Grouping keeps the text. -/
theorem written_ofTokens (tokens : List Token) :
    writtenAll (ofTokens tokens) = tokens.foldl (fun s t => s ++ t.written) "" := by
  have h (tokens : List Token) (b : Builder) :
      Builder.written (tokens.foldl Builder.step b).opened (tokens.foldl Builder.step b).outside =
        tokens.foldl (fun s t => s ++ t.written) (Builder.written b.opened b.outside) := by
    induction tokens generalizing b with
    | nil => rfl
    | cons t ts ih => rw [List.foldl_cons, ih, Builder.written_step, List.foldl_cons]
  rw [ofTokens, Builder.written_finish, h]
  simp [Builder.written, writtenAll]

end TokenTree

/-- The pieces of a list that `step` cuts off one after another; each takes one tree at least. -/
def pieces {α : Type} (step : List TokenTree → α × Nat) : List TokenTree → List α
  | [] => []
  | t :: ts =>
    let (piece, length) := step (t :: ts)
    piece :: pieces step (ts.drop (length - 1))
termination_by trees => trees.length
decreasing_by simp only [List.length_drop, List.length_cons]; omega

end ClassGraph.Source
