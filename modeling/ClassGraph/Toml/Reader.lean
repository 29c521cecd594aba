import ClassGraph.Text.Basic
import ClassGraph.Toml.Scalar

/-!
# Reading TOML

A text is cut into tokens, and a machine reads them one by one. Its state says what may come next,
with the arrays and tables that are open around it. The statements that it collects make up the
document. `Toml.parse?` answers nothing for a text that is no TOML.
-/

namespace ClassGraph.Toml

/-- A token of a TOML text. -/
inductive Token where
  /-- The end of a line. -/
  | lineBreak
  /-- A bracket, an equals sign or a comma, and whether it stands directly behind the token in
  front. -/
  | mark (c : Char) (isTight : Bool)
  /-- A quoted text, and whether it may span lines. -/
  | text (s : String) (isBlock : Bool)
  /-- A run of the characters of bare keys and scalars. -/
  | word (s : List Char)

/-- Whether a character may not stand in a text or comment. -/
def isControl (c : Char) : Bool := (c.toNat < 0x20 && c != '\t') || c == '\x7f'

/-- The character that a letter behind a backslash stands for. -/
def simpleEscape? : Char → Option Char
  | '"' => some '"'
  | '\\' => some '\\'
  | 'b' => some '\x08'
  | 'e' => some '\x1b'
  | 'f' => some '\x0c'
  | 'n' => some '\n'
  | 'r' => some '\r'
  | 't' => some '\t'
  | _ => none

/-- The character that a count of hexadecimal digits stands for, and what follows them. -/
def hexEscape? (count : Nat) (s : List Char) : Option (Char × List Char) :=
  if (s.take count).length = count then
    match Text.number? 16 (s.take count) with
    | some n => if n.isValidChar then some (Char.ofNat n, s.drop count) else none
    | none => none
  else none

/-- The character that is written behind a backslash, and what follows it. -/
def escape? : List Char → Option (Char × List Char)
  | [] => none
  | 'x' :: s => hexEscape? 2 s
  | 'u' :: s => hexEscape? 4 s
  | 'U' :: s => hexEscape? 8 s
  | c :: s => (simpleEscape? c).map (·, s)

/-- What is left of a text behind an escape is shorter. -/
theorem length_escape?_lt {s : List Char} {p : Char × List Char} (h : escape? s = some p) :
    p.2.length < s.length := by
  have hex (count : Nat) (s : List Char) (p : Char × List Char)
      (h : hexEscape? count s = some p) : p.2.length ≤ s.length := by
    unfold hexEscape? at h
    grind
  unfold escape? at h
  split at h
  · exact absurd h (by simp)
  · have := hex _ _ _ h
    grind
  · have := hex _ _ _ h
    grind
  · have := hex _ _ _ h
    grind
  · obtain ⟨_, _, rfl⟩ := Option.map_eq_some_iff.1 h
    simp

/-- A text with one more character in front, and what follows the text. -/
def pushChar (c : Char) : List Char × List Char → List Char × List Char
  | (held, rest) => (c :: held, rest)

/-- The characters of a text up to its closing quotation mark, and what follows the mark. -/
def quoted? : List Char → Option (List Char × List Char)
  | [] => none
  | '"' :: s => some ([], s)
  | '\\' :: s =>
    match _h : escape? s with
    | some (c, rest) => (quoted? rest).map (pushChar c)
    | none => none
  | c :: s => if isControl c then none else (quoted? s).map (pushChar c)
termination_by s => s.length
decreasing_by
  all_goals simp only [List.length_cons]
  · have := length_escape?_lt _h
    simp only at this
    omega
  · omega

/-- The characters of a text without escapes up to its closing quote, and what follows it. -/
def literal? : List Char → Option (List Char × List Char)
  | [] => none
  | '\'' :: s => some ([], s)
  | c :: s => if isControl c then none else (literal? s).map (pushChar c)

/-- The end of a text over several lines, where three quotes stand at least. Up to two quotes in
front of the closing three belong to the text. -/
def blockEnd? (quote : Char) (s : List Char) : Option (List Char × List Char) :=
  let run := s.takeWhile (· == quote)
  if run.length < 3 then none
  else
    let held := min 2 (run.length - 3)
    some (run.take held, s.drop (held + 3))

/-- Whether a carriage return stands without a line feed behind it. -/
def isLoneReturn (c : Char) (s : List Char) : Bool := c == '\r' && s.head? != some '\n'

/-- Whether a character may not stand in a text over several lines. -/
def isBlockControl (c : Char) (s : List Char) : Bool :=
  isLoneReturn c s || (isControl c && c != '\n' && c != '\r')

/-- What follows a backslash that ends its line, without the blanks and line breaks in front. -/
def continued? (s : List Char) : Option (List Char) :=
  let rest := s.dropWhile fun c => c == ' ' || c == '\t'
  match rest with
  | '\n' :: _ | '\r' :: '\n' :: _ =>
    some (rest.dropWhile fun c => c == ' ' || c == '\t' || c == '\n' || c == '\r')
  | _ => none

/-- What is left of a text behind a continued line is no longer than the text. -/
theorem length_continued?_le {s rest : List Char} (h : continued? s = some rest) :
    rest.length ≤ s.length := by
  have hdrop (p : Char → Bool) (s : List Char) : (s.dropWhile p).length ≤ s.length :=
    (List.dropWhile_sublist p).length_le
  unfold continued? at h
  simp only at h
  split at h
  · obtain rfl := Option.some.inj h
    exact Nat.le_trans (hdrop _ _) (hdrop _ _)
  · obtain rfl := Option.some.inj h
    exact Nat.le_trans (hdrop _ _) (hdrop _ _)
  · exact absurd h (by simp)

/-- The characters of a text over several lines up to its closing quotation marks, and what follows
them. -/
def quotedBlock? : List Char → Option (List Char × List Char)
  | [] => none
  | c :: s =>
    match blockEnd? '"' (c :: s) with
    | some ended => some ended
    | none =>
      if c = '\\' then
        match _h : continued? s with
        | some rest => quotedBlock? rest
        | none =>
          match _h : escape? s with
          | some (c, rest) => (quotedBlock? rest).map (pushChar c)
          | none => none
      else if isBlockControl c s then none
      else (quotedBlock? s).map (pushChar c)
termination_by s => s.length
decreasing_by
  all_goals simp only [List.length_cons]
  · have := length_continued?_le _h
    omega
  · have := length_escape?_lt _h
    simp only at this
    omega
  · omega

/-- The characters of a text over several lines without escapes up to its closing quotes, and what
follows them. -/
def literalBlock? : List Char → Option (List Char × List Char)
  | [] => none
  | c :: s =>
    match blockEnd? '\'' (c :: s) with
    | some ended => some ended
    | none => if isBlockControl c s then none else (literalBlock? s).map (pushChar c)

/-- A text without the line break at its beginning. -/
def dropLineBreak : List Char → List Char
  | '\n' :: s | '\r' :: '\n' :: s => s
  | s => s

/-- The quoted text behind a first quote, and what follows it. Three quotes open a text over several
lines. -/
def quotedToken? (quote : Char) (s : List Char) : Option (Token × List Char) :=
  let hasEscapes := quote = '"'
  let isBlock := s.take 2 = [quote, quote]
  let body := dropLineBreak (s.drop 2)
  let found :=
    if isBlock then if hasEscapes then quotedBlock? body else literalBlock? body
    else if hasEscapes then quoted? s
    else literal? s
  found.map fun (held, rest) => (.text (String.ofList held) isBlock, rest)

/-- Whether a character may stand in a bare key or a scalar. -/
def isWordChar (c : Char) : Bool := c.isAlphanum || ['_', '-', '+', ':', '.'].contains c

/-- The word at the beginning of a text, and what follows it. A date takes the time of day behind a
blank with it. -/
def splitWord (s : List Char) : List Char × List Char :=
  let word := s.takeWhile isWordChar
  match s.dropWhile isWordChar with
  | ' ' :: a :: rest =>
    if behindDate? word = some [] ∧ a.isDigit then
      (word ++ ' ' :: (a :: rest).takeWhile isWordChar, (a :: rest).dropWhile isWordChar)
    else (word, ' ' :: a :: rest)
  | rest => (word, rest)

/-- The token at the beginning of a text, and what follows it; no token for a blank or comment. -/
def nextToken? (isTight : Bool) (c : Char) (s : List Char) : Option (Option Token × List Char) :=
  if c = ' ' ∨ c = '\t' then some (none, s)
  else if c = '\n' then some (some .lineBreak, s)
  else if c = '\r' then
    match s with
    | '\n' :: s => some (some .lineBreak, s)
    | _ => none
  else if c = '#' then
    let isText (c : Char) : Bool := c != '\n' && c != '\r'
    if (s.takeWhile isText).any isControl then none else some (none, s.dropWhile isText)
  else if c = '"' ∨ c = '\'' then (quotedToken? c s).map fun (token, rest) => (some token, rest)
  else if ['=', ',', '[', ']', '\x7b', '\x7d'].contains c then some (some (.mark c isTight), s)
  else if isWordChar c then
    let (word, rest) := splitWord (c :: s)
    some (some (.word word), rest)
  else none

/-- The tokens of a text; `fuel` bounds their number. -/
def tokensFrom? (fuel : Nat) (isTight : Bool) : List Char → Option (List Token)
  | [] => some []
  | c :: s =>
    match fuel with
    | 0 => none
    | fuel + 1 =>
      match nextToken? isTight c s with
      | none => none
      | some (none, rest) => tokensFrom? fuel false rest
      | some (some token, rest) => (tokensFrom? fuel true rest).map (token :: ·)

/-- The tokens of a text. Each takes one character at least. -/
def tokens? (s : List Char) : Option (List Token) := tokensFrom? s.length false s

/-- An array or table that is still open around a value. -/
inductive Frame where
  /-- An array, with what it holds so far in reverse. -/
  | array (items : List Toml)
  /-- A table, in which the value comes next that belongs to a path. -/
  | table (members : Members) (path : List String)

/-- What a key is for. -/
inductive Place where
  /-- The header of a table, or of one more table in an array of tables. -/
  | header (isItem : Bool)
  /-- A line with a value. -/
  | line
  /-- A member of an open table, in the value for another key. -/
  | member (key : List String) (members : Members) (frames : List Frame)

/-- What the reader expects next. -/
inductive State where
  /-- A line. -/
  | line
  /-- A header, behind its first bracket. -/
  | header
  /-- More of a key, innermost name first; the flag says that a name is missing. -/
  | key (place : Place) (isMissing : Bool) (path : List String)
  /-- The second closing bracket of a header. -/
  | closing (path : List String)
  /-- The value for a key. -/
  | value (key : List String) (frames : List Frame)
  /-- An item of an array, or its end. -/
  | item (key : List String) (items : List Toml) (frames : List Frame)
  /-- A member of a table, or its end. -/
  | member (key : List String) (members : Members) (frames : List Frame)
  /-- What follows a value inside of an array or table. -/
  | behind (key : List String) (value : Toml) (frame : Frame) (frames : List Frame)
  /-- The end of the line. -/
  | ended

/-- Whether a text may stand as a key without quotes. -/
def isBareKey (s : List Char) : Bool := s.all fun c => c.isAlphanum || c == '_' || c == '-'

/-- A key behind the parts of a word between its dots. -/
def bareKey? (isMissing : Bool) (path : List String) :
    List (List Char) → Option (Bool × List String)
  | [] => some (isMissing, path)
  | part :: parts => do
    let (isMissing, path) ←
      if part.isEmpty then some (isMissing, path)
      else if isMissing && isBareKey part then some (false, String.ofList part :: path)
      else none
    if parts.isEmpty then return (isMissing, path)
    if isMissing then none else bareKey? true path parts

/-- The statements so far, latest first, and the state of the reader. -/
abbrev Progress := List Statement × State

/-- The progress behind a value. -/
def finish (done : List Statement) (key : List String) (value : Toml) : List Frame → Progress
  | [] => (.assignment key value :: done, .ended)
  | frame :: frames => (done, .behind key value frame frames)

/-- The progress behind a token that starts a value. -/
def startValue? (done : List Statement) (key : List String) (frames : List Frame) :
    Token → Option Progress
  | .text s _ => some (finish done key (.text s) frames)
  | .word s => (scalar? s).map fun value => finish done key value frames
  | .mark '[' _ => some (done, .item key [] frames)
  | .mark '\x7b' _ => some (done, .member key [] frames)
  | _ => none

/-- The progress behind a token that starts a key or is a part of one. -/
def continueKey? (done : List Statement) (place : Place) (isMissing : Bool)
    (path : List String) : Token → Option Progress
  | .word s =>
    (bareKey? isMissing path (Text.splitAll '.' s)).map fun (isMissing, path) =>
      (done, .key place isMissing path)
  | .text s false => if isMissing then some (done, .key place false (s :: path)) else none
  | _ => none

/-- The progress behind a mark that ends a key. -/
def endKey? (done : List Statement) (place : Place) (path : List String) (c : Char) :
    Option Progress :=
  match place, c with
  | .line, '=' => some (done, .value path.reverse [])
  | .header false, ']' => some (.header path.reverse :: done, .ended)
  | .header true, ']' => some (done, .closing path.reverse)
  | .member key members frames, '=' =>
    some (done, .value key (.table members path.reverse :: frames))
  | _, _ => none

/-- The progress behind one more token. -/
def next? : Progress → Token → Option Progress
  | (done, .line), .lineBreak => some (done, .line)
  | (done, .line), .mark '[' _ => some (done, .header)
  | (done, .line), token => continueKey? done .line true [] token
  | (done, .header), .mark '[' true => some (done, .key (.header true) true [])
  | (done, .header), token => continueKey? done (.header false) true [] token
  | (done, .key place false path), .mark c _ => endKey? done place path c
  | (done, .key place isMissing path), token => continueKey? done place isMissing path token
  | (done, .closing path), .mark ']' true => some (.item path :: done, .ended)
  | (done, .value key frames), token => startValue? done key frames token
  | (done, .item key items frames), .lineBreak => some (done, .item key items frames)
  | (done, .item key items frames), .mark ']' _ =>
    some (finish done key (.array items.reverse) frames)
  | (done, .item key items frames), token => startValue? done key (.array items :: frames) token
  | (done, .member key members frames), .lineBreak => some (done, .member key members frames)
  | (done, .member key members frames), .mark '\x7d' _ =>
    some (finish done key (.table .closed members) frames)
  | (done, .member key members frames), token =>
    continueKey? done (.member key members frames) true [] token
  | (done, .behind key value frame frames), .lineBreak =>
    some (done, .behind key value frame frames)
  | (done, .behind key value (.array items) frames), .mark ',' _ =>
    some (done, .item key (value :: items) frames)
  | (done, .behind key value (.array items) frames), .mark ']' _ =>
    some (finish done key (.array (value :: items).reverse) frames)
  | (done, .behind key value (.table members path) frames), .mark ',' _ =>
    (members.assign? path value).map fun members => (done, .member key members frames)
  | (done, .behind key value (.table members path) frames), .mark '\x7d' _ =>
    (members.assign? path value).map fun members =>
      finish done key (.table .closed members) frames
  | (done, .ended), .lineBreak => some (done, .line)
  | _, _ => none

/-- The statements that a list of tokens writes. -/
def statements? (tokens : List Token) : Option (List Statement) := do
  match ← tokens.foldlM next? ([], .line) with
  | (done, .line) | (done, .ended) => some done.reverse
  | _ => none

/-- The document that a text writes. A byte order mark may stand in front. -/
def parse? (s : String) : Option Members := do
  let chars := match s.toList with
    | '\ufeff' :: chars => chars
    | chars => chars
  ofStatements? (← statements? (← tokens? chars))

end ClassGraph.Toml
