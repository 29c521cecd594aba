import ClassGraph.Json.Basic

/-!
# Written JSON

Two layouts of one value: `compact` on a single line, and `pretty` with a line for each item and
member, two blanks to a level, and nothing between the brackets of an empty array or object. In both
a text escapes quotes, backslashes and the characters below U+0020, and nothing else.
-/

namespace ClassGraph.Json

/-- The lower case hexadecimal digit of a number below sixteen. -/
def hexDigit (n : Nat) : Char := (Nat.toDigits 16 n).headD '0'

/-- One character of a written text. -/
def escapedChar (c : Char) : List Char :=
  match c with
  | '"' => ['\\', '"']
  | '\\' => ['\\', '\\']
  | '\x08' => ['\\', 'b']
  | '\x0c' => ['\\', 'f']
  | '\n' => ['\\', 'n']
  | '\r' => ['\\', 'r']
  | '\t' => ['\\', 't']
  | c =>
    if c.toNat < 0x20 then
      ['\\', 'u', '0', '0', hexDigit (c.toNat / 16), hexDigit (c.toNat % 16)]
    else [c]

/-- A text between its quotes. -/
def writtenString (s : String) : List Char := '"' :: s.toList.flatMap escapedChar ++ ['"']

/-- The written form of an integer. -/
def writtenInteger (n : Int) : List Char :=
  match n with
  | .ofNat n => Nat.toDigits 10 n
  | .negSucc n => '-' :: Nat.toDigits 10 (n + 1)

/-- A line break and the blanks of a level. -/
def newline (level : Nat) : List Char := '\n' :: List.replicate (2 * level) ' '

mutual

/-- The value on one line. -/
def compact : Json → List Char
  | .null => "null".toList
  | .bool true => "true".toList
  | .bool false => "false".toList
  | .integer n => writtenInteger n
  | .real text => text.toList
  | .string s => writtenString s
  | .array [] => "[]".toList
  | .array (item :: items) => '[' :: compact item ++ compactItems items ++ [']']
  | .object [] => ['\x7b', '\x7d']
  | .object ((key, value) :: members) =>
    '\x7b' :: writtenString key ++ ':' :: compact value ++ compactMembers members ++ ['\x7d']

/-- The items behind the first one, each behind its comma. -/
def compactItems : List Json → List Char
  | [] => []
  | item :: items => ',' :: compact item ++ compactItems items

/-- The members behind the first one, each behind its comma. -/
def compactMembers : List (String × Json) → List Char
  | [] => []
  | (key, value) :: members =>
    ',' :: writtenString key ++ ':' :: compact value ++ compactMembers members

end

mutual

/-- The value over several lines, its inner lines one level deeper than `level`. -/
def prettyAt (level : Nat) : Json → List Char
  | .null => "null".toList
  | .bool true => "true".toList
  | .bool false => "false".toList
  | .integer n => writtenInteger n
  | .real text => text.toList
  | .string s => writtenString s
  | .array [] => "[]".toList
  | .array (item :: items) =>
    '[' :: newline (level + 1) ++ prettyAt (level + 1) item ++ prettyItems (level + 1) items ++
      newline level ++ [']']
  | .object [] => ['\x7b', '\x7d']
  | .object ((key, value) :: members) =>
    '\x7b' :: newline (level + 1) ++ writtenString key ++ ':' :: ' ' ::
      prettyAt (level + 1) value ++ prettyMembers (level + 1) members ++ newline level ++ ['\x7d']

/-- The items behind the first one, each on a line of its own. -/
def prettyItems (level : Nat) : List Json → List Char
  | [] => []
  | item :: items => ',' :: newline level ++ prettyAt level item ++ prettyItems level items

/-- The members behind the first one, each on a line of its own. -/
def prettyMembers (level : Nat) : List (String × Json) → List Char
  | [] => []
  | (key, value) :: members =>
    ',' :: newline level ++ writtenString key ++ ':' :: ' ' :: prettyAt level value ++
      prettyMembers level members

end

/-- The value over several lines. -/
def pretty (j : Json) : String := String.ofList (prettyAt 0 j)

/-- The value on one line. -/
def line (j : Json) : String := String.ofList (compact j)

end ClassGraph.Json
