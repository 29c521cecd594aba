import ClassGraph.Graph.Basic
import ClassGraph.Text.Digits

/-!
# Reading DOT

`Dot.read?` finds the nodes and the edges in a DOT text, statement by statement. The text is cut
into tokens by a machine that goes from one character to the next; between quotes it takes a
backslash and the character behind it as one escape, so that only a quote without a backslash ends
a text. Statements end with a semicolon and attributes with a comma, and no semicolon or comma
between quotes counts. Of a node the reader wants the number and the label, of an edge its two ends,
the style that tells its kind, and the label, if there is one.
-/

namespace ClassGraph.Diagram.Dot

/-! ## Tokens -/

/-- A character between quotes as it is written. -/
inductive Piece where
  /-- A character that stands for itself. -/
  | plain (c : Char)
  /-- A backslash with the character behind it. -/
  | escape (c : Char)
deriving DecidableEq, Repr

/-- A token of a DOT text. -/
inductive Token where
  /-- A word without quotes. -/
  | word (text : String)
  /-- What stands between two quotes. -/
  | quoted (pieces : List Piece)
  /-- Any other character that is no blank. -/
  | mark (c : Char)
deriving DecidableEq, Repr

/-- Where a reader stands in a text, with what it has read of the token that has begun. -/
inductive Place where
  /-- Between two tokens. -/
  | between
  /-- In a word. -/
  | inWord (word : List Char)
  /-- Between quotes. -/
  | inQuotes (pieces : List Piece)
  /-- Between quotes, behind a backslash. -/
  | behindBackslash (pieces : List Piece)
deriving DecidableEq, Repr

/-- A blank between tokens. -/
def isBlank (c : Char) : Bool := c == ' ' || c == '\n' || c == '\r' || c == '\t'

/-- A character of a word. -/
def isWordChar (c : Char) : Bool := c.isAlphanum || c == '_'

/-- A character that stands between two tokens, or begins one. -/
def enter (c : Char) : List Token × Place :=
  if c = '"' then ([], .inQuotes [])
  else if isBlank c then ([], .between)
  else if isWordChar c then ([], .inWord [c])
  else ([.mark c], .between)

/-- The tokens that end at a character, and the place behind it. -/
def Place.step : Place → Char → List Token × Place
  | .between, c => enter c
  | .inWord word, c =>
    if isWordChar c then ([], .inWord (word ++ [c]))
    else (.word (String.ofList word) :: (enter c).1, (enter c).2)
  | .inQuotes pieces, c =>
    if c = '"' then ([.quoted pieces], .between)
    else if c = '\\' then ([], .behindBackslash pieces)
    else ([], .inQuotes (pieces ++ [.plain c]))
  | .behindBackslash pieces, c => ([], .inQuotes (pieces ++ [.escape c]))

/-- The tokens that end in a text, and the place behind it. -/
def Place.run : Place → List Char → List Token × Place
  | p, [] => ([], p)
  | p, c :: cs => ((p.step c).1 ++ ((p.step c).2.run cs).1, ((p.step c).2.run cs).2)

/-- The tokens of a text, which must not end between quotes. -/
def tokens? (text : List Char) : Option (List Token) :=
  match Place.run .between text with
  | (tokens, .between) => some tokens
  | (tokens, .inWord word) => some (tokens ++ [.word (String.ofList word)])
  | _ => none

/-! ## Statements -/

/-- The name and the value of an attribute. -/
def attribute? : List Token → Option (String × Token)
  | [.word name, .mark '=', value] => some (name, value)
  | _ => none

/-- The attributes in brackets, with commas between them. -/
def attributes? : List Token → Option (List (String × Token))
  | .mark '[' :: inside =>
    if inside.getLast? = some (.mark ']') then
      (inside.dropLast.splitOn (.mark ',')).mapM attribute?
    else none
  | _ => none

/-- The character that a piece of a text stands for; other escapes than those of a backslash and of
a quote have a meaning in a label only. -/
def Piece.char? : Piece → Option Char
  | .plain c => some c
  | .escape c => if c = '\\' ∨ c = '"' then some c else none

/-- The text that pieces stand for. -/
def text? (pieces : List Piece) : Option String := (pieces.mapM Piece.char?).map String.ofList

/-- The entity that a text numbers. -/
def entity? : List Piece → Option EntityId
  | .plain '#' :: number => do
    let digits ← number.mapM Piece.char?
    if Text.isDigits digits then some ⟨Nat.ofDigitChars 10 digits 0⟩ else none
  | _ => none

/-- The first line of a label and, if there is a second one, what it shows between guillemets. -/
def label? (pieces : List Piece) : Option (String × Option String) :=
  match pieces.dropWhile (· != .escape 'n') with
  | [] => do
    let tag ← text? pieces
    return (tag, none)
  | _ :: .plain '«' :: roles =>
    if roles.getLast? = some (.plain '»') then do
      let tag ← text? (pieces.takeWhile (· != .escape 'n'))
      let shown ← text? roles.dropLast
      return (tag, some shown)
    else none
  | _ => none

/-- The kind of an edge that is drawn in a style. -/
def kind? (attributes : List (String × Token)) : Option RelationKind :=
  match attributes.lookup "style", attributes.lookup "arrowtail" with
  | some (.word "solid"), some (.word "diamond") => some .composition
  | some (.word "solid"), some (.word "odiamond") => some .aggregation
  | some (.word "solid"), none => some .association
  | some (.word "dashed"), none => some .dependency
  | _, _ => none

/-- The label of an edge, if it has one. -/
def edgeLabel? (attributes : List (String × Token)) : Option (Option String) :=
  match attributes.lookup "label" with
  | none => some none
  | some (.quoted pieces) => (text? pieces).map some
  | some _ => none

/-- What a statement draws. -/
inductive Item where
  /-- A node: the entity, the name of its type, and the line of its roles, if there is one. -/
  | node (id : EntityId) (typeTag : String) (roles : Option String)
  /-- An edge: its two ends, the kind of the relation, and the label, if there is one. -/
  | edge (source target : EntityId) (kind : RelationKind) (label : Option String)
deriving DecidableEq, Repr

/-- What the tokens of a statement draw. -/
def item? : List Token → Option Item
  | .quoted source :: .mark '-' :: .mark '>' :: .quoted target :: more => do
    let attributes ← attributes? more
    return .edge (← entity? source) (← entity? target) (← kind? attributes)
      (← edgeLabel? attributes)
  | .quoted name :: more => do
    match (← attributes? more).lookup "label" with
    | some (.quoted pieces) =>
      let (tag, roles) ← label? pieces
      return .node (← entity? name) tag roles
    | _ => none
  | _ => none

/-- A statement that sets something for all nodes and edges begins with a word. -/
def isSetting : List Token → Bool
  | .word _ :: _ => true
  | _ => false

/-- What the statements between the braces draw, in their order; settings draw nothing. -/
def items? (body : List Token) : Option (List Item) :=
  let statements := body.splitOn (.mark ';')
  if statements.getLast? = some [] then
    (statements.dropLast.filter fun s => !isSetting s).mapM item?
  else none

/-- The nodes and edges that a text draws, in their order. -/
def read? (text : String) : Option (List Item) := do
  match ← tokens? text.toList with
  | .word "digraph" :: .word _ :: .mark '\x7b' :: inside =>
    if inside.getLast? = some (.mark '\x7d') then items? inside.dropLast else none
  | _ => none

end ClassGraph.Diagram.Dot
