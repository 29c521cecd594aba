import ClassGraph.Json.Basic
import ClassGraph.Text.Digits

/-!
# Reading JSON

A text is cut into tokens, and the tokens are read one by one by a machine whose state is the
innermost open array or object and all those around it. Nothing is read twice and nothing looks
ahead, so the reader is a left fold. `Json.parse?` answers nothing for a text that is no JSON.
-/

namespace ClassGraph.Json

/-- A token of a JSON text. -/
inductive Token where
  /-- A bracket, brace, colon or comma. -/
  | mark (c : Char)
  /-- A value that holds no other values. -/
  | scalar (j : Json)
deriving Inhabited

/-- The number that four hexadecimal digits write. -/
def hexQuad? (a b c d : Char) : Option Nat := Text.number? 16 [a, b, c, d]

/-- The character that a letter behind a backslash stands for. -/
def simpleEscape? : Char → Option Char
  | '"' => some '"'
  | '\\' => some '\\'
  | '/' => some '/'
  | 'b' => some '\x08'
  | 'f' => some '\x0c'
  | 'n' => some '\n'
  | 'r' => some '\r'
  | 't' => some '\t'
  | _ => none

/-- Puts a character in front of a text that has been read. -/
def pushChar (c : Char) : List Char × List Char → List Char × List Char
  | (text, rest) => (c :: text, rest)

/-- The characters of a text up to its closing quote, and what follows the quote. The first half of
a surrogate pair, once read, waits in `high` for the second. -/
def stringBody? (high : Option Nat) : List Char → Option (List Char × List Char)
  | [] => none
  | '\\' :: 'u' :: a :: b :: c :: d :: rest =>
    match hexQuad? a b c d, high with
    | none, _ => none
    | some n, some lead =>
      if 0xDC00 ≤ n ∧ n < 0xE000 then
        (stringBody? none rest).map
          (pushChar (Char.ofNat (0x10000 + (lead - 0xD800) * 0x400 + (n - 0xDC00))))
      else none
    | some n, none =>
      if 0xD800 ≤ n ∧ n < 0xDC00 then stringBody? (some n) rest
      else if 0xDC00 ≤ n ∧ n < 0xE000 then none
      else (stringBody? none rest).map (pushChar (Char.ofNat n))
  | '\\' :: c :: rest =>
    match simpleEscape? c, high with
    | some c, none => (stringBody? none rest).map (pushChar c)
    | _, _ => none
  | c :: rest =>
    if high.isSome ∨ c.toNat < 0x20 ∨ c = '\\' then none
    else if c = '"' then some ([], rest)
    else (stringBody? none rest).map (pushChar c)

/-- The number that a text writes: a sign, digits without a superfluous zero in front, and possibly
a fraction and an exponent. -/
def number? (s : List Char) : Option Json :=
  let (negative, body) := match s with
    | '-' :: rest => (true, rest)
    | _ => (false, s)
  let whole := body.takeWhile Char.isDigit
  let rest := body.dropWhile Char.isDigit
  if whole.isEmpty || (whole.length > 1 && whole.head? == some '0') then none
  else
    let (fraction, rest) := match rest with
      | '.' :: rest => (some (rest.takeWhile Char.isDigit), rest.dropWhile Char.isDigit)
      | _ => (none, rest)
    let exponent := match rest with
      | e :: sign :: rest =>
        if e = 'e' ∨ e = 'E' then
          some (if sign = '+' ∨ sign = '-' then rest else sign :: rest)
        else some []
      | [] => none
      | _ => some []
    if fraction = some [] || (exponent.any fun digits => !Text.isDigits digits) then none
    else do
      let n ← Text.number? 10 whole
      if fraction.isSome || exponent.isSome || (negative && n = 0) then
        return .real (String.ofList s)
      else return .integer (if negative then -(n : Int) else n)

/-- Whether a character may stand in a number or a literal word. -/
def isScalarChar (c : Char) : Bool := c.isAlphanum || c == '-' || c == '+' || c == '.'

/-- The value that a run of scalar characters writes. -/
def scalar? (s : List Char) : Option Json :=
  if s = "null".toList then some .null
  else if s = "true".toList then some (.bool true)
  else if s = "false".toList then some (.bool false)
  else number? s

/-- What is left of a text behind the body of a string is shorter. -/
theorem length_stringBody?_lt {high : Option Nat} {s : List Char} {p : List Char × List Char}
    (h : stringBody? high s = some p) : p.2.length < s.length := by
  fun_induction stringBody? high s generalizing p <;>
    simp_all only [Option.map_eq_some_iff, reduceCtorEq, List.length_cons, pushChar] <;> grind

/-- The tokens of a text; blanks between them do not count. -/
def tokens? : List Char → Option (List Token)
  | [] => some []
  | c :: cs =>
    if c = ' ' ∨ c = '\n' ∨ c = '\r' ∨ c = '\t' then tokens? cs
    else if c = '[' ∨ c = ']' ∨ c = '\x7b' ∨ c = '\x7d' ∨ c = ':' ∨ c = ',' then
      (tokens? cs).map (.mark c :: ·)
    else if c = '"' then
      match _h : stringBody? none cs with
      | none => none
      | some (text, rest) => (tokens? rest).map (.scalar (.string (String.ofList text)) :: ·)
    else do
      let j ← scalar? (c :: cs.takeWhile isScalarChar)
      (tokens? (cs.dropWhile isScalarChar)).map (.scalar j :: ·)
termination_by s => s.length
decreasing_by
  all_goals simp only [List.length_cons]
  · omega
  · omega
  · have := length_stringBody?_lt _h
    simp only at this
    omega
  · have := (List.dropWhile_sublist isScalarChar (l := cs)).length_le
    omega

/-- An array or object that is still open, with what it holds so far in reverse. -/
inductive Frame where
  /-- An array. -/
  | array (items : List Json)
  /-- An object in which the value of `key` comes next. -/
  | object (members : List (String × Json)) (key : String)

/-- What the reader expects next, and the open arrays and objects around it, innermost first. -/
inductive State where
  /-- A value. -/
  | value (frames : List Frame)
  /-- The first item of the array that was opened last, or its end. -/
  | firstItem (frames : List Frame)
  /-- The first key of an object, or its end. -/
  | firstKey (frames : List Frame)
  /-- A further key of an object. -/
  | key (members : List (String × Json)) (frames : List Frame)
  /-- The colon behind a key. -/
  | colon (members : List (String × Json)) (key : String) (frames : List Frame)
  /-- What may follow a finished value. -/
  | finished (j : Json) (frames : List Frame)

/-- The state behind one more token. -/
def State.next? : State → Token → Option State
  | .firstItem (.array _ :: frames), .mark ']' => some (.finished (.array []) frames)
  | .value frames, .scalar j | .firstItem frames, .scalar j => some (.finished j frames)
  | .value frames, .mark '[' | .firstItem frames, .mark '[' =>
    some (.firstItem (.array [] :: frames))
  | .value frames, .mark '\x7b' | .firstItem frames, .mark '\x7b' => some (.firstKey frames)
  | .firstKey frames, .mark '\x7d' => some (.finished (.object []) frames)
  | .firstKey frames, .scalar (.string name) => some (.colon [] name frames)
  | .key members frames, .scalar (.string name) => some (.colon members name frames)
  | .colon members name frames, .mark ':' => some (.value (.object members name :: frames))
  | .finished j (.array items :: frames), .mark ',' => some (.value (.array (j :: items) :: frames))
  | .finished j (.array items :: frames), .mark ']' =>
    some (.finished (.array (j :: items).reverse) frames)
  | .finished j (.object members name :: frames), .mark ',' =>
    some (.key ((name, j) :: members) frames)
  | .finished j (.object members name :: frames), .mark '\x7d' =>
    some (.finished (.object ((name, j) :: members).reverse) frames)
  | _, _ => none

/-- The value that a list of tokens writes. -/
def ofTokens? (tokens : List Token) : Option Json := do
  match ← tokens.foldlM State.next? (.value []) with
  | .finished j [] => some j
  | _ => none

/-- The value that a text writes. -/
def parse? (s : String) : Option Json := do
  ofTokens? (← tokens? s.toList)

end ClassGraph.Json
