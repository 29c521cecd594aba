import ClassGraph.Text.Digits
import ClassGraph.Toml.Basic

/-!
# TOML scalars

The values that are written without quotes and brackets: integers in four bases, numbers with a
fraction or an exponent, truth values, dates and times. A number that no machine format can hold is
none.
-/

namespace ClassGraph.Toml

/-- The digits of a number without the underscores, each of which has to stand between two
digits. -/
def ungrouped? (isDigit : Char → Bool) (s : List Char) : Option (List Char) :=
  let rec go (behindDigit : Bool) : List Char → Option (List Char)
    | [] => if behindDigit then some [] else none
    | c :: cs =>
      if c = '_' then if behindDigit then go false cs else none
      else if isDigit c then (go true cs).map (c :: ·)
      else none
  go false s

/-- Whether digits are written without a superfluous zero in front. -/
def isPlain (digits : List Char) : Bool := digits.length = 1 || digits.head? ≠ some '0'

/-- The number that a run of digits writes in a base. -/
def inBase? (base : Nat) (s : List Char) : Option Nat := do
  Text.number? base (← ungrouped? (fun c => (Text.digitValue? base c).isSome) s)

/-- A text without a sign in front, and whether the sign was a minus. -/
def splitSign : List Char → Bool × List Char
  | '-' :: s => (true, s)
  | '+' :: s => (false, s)
  | s => (false, s)

/-- The integer that a text writes. -/
def writtenInteger? (s : List Char) : Option Int :=
  match s with
  | '0' :: 'x' :: digits => (inBase? 16 digits).map Int.ofNat
  | '0' :: 'o' :: digits => (inBase? 8 digits).map Int.ofNat
  | '0' :: 'b' :: digits => (inBase? 2 digits).map Int.ofNat
  | _ => do
    let (negative, body) := splitSign s
    let digits ← ungrouped? Char.isDigit body
    if !isPlain digits then none
    let n ← Text.number? 10 digits
    return if negative then -(n : Int) else n

/-- The integer that a text writes, when it has no more than 128 bits. -/
def integer? (s : List Char) : Option Toml := do
  let n ← writtenInteger? s
  if -Int.pow 2 127 ≤ n ∧ n < Int.pow 2 128 then some (.integer n) else none

/-- Whether `digits` times a power of ten is too large for a number of 64 bits. -/
def overflows (digits : List Char) (exponent : Int) : Bool :=
  let significant := digits.dropWhile (· == '0')
  let magnitude := significant.length + exponent
  if significant.isEmpty || magnitude ≤ 308 then false
  else if magnitude > 310 then true
  else
    let n := (Text.number? 10 significant).getD 0
    let bound := Nat.pow 2 1024 - Nat.pow 2 970
    if 0 ≤ exponent then bound ≤ n * Nat.pow 10 exponent.toNat
    else bound * Nat.pow 10 (-exponent).toNat ≤ n

/-- The exponent that a text writes. -/
def exponent? (s : List Char) : Option Int := do
  let (negative, body) := splitSign s
  let n ← Text.number? 10 (← ungrouped? Char.isDigit body)
  return if negative then -(n : Int) else n

/-- The number with a fraction or an exponent that a text writes. -/
def real? (s : List Char) : Option Toml := do
  let body := (splitSign s).2
  if body = "inf".toList ∨ body = "nan".toList then return .real
  let isMark (c : Char) : Bool := c == '.' || c == 'e' || c == 'E'
  let whole ← ungrouped? Char.isDigit (body.takeWhile fun c => !isMark c)
  if !isPlain whole then none
  let rest := body.dropWhile fun c => !isMark c
  let isExponent (c : Char) : Bool := c == 'e' || c == 'E'
  let (fraction, rest) ←
    match rest with
    | '.' :: rest => do
      let fraction ← ungrouped? Char.isDigit (rest.takeWhile fun c => !isExponent c)
      some (fraction, rest.dropWhile fun c => !isExponent c)
    | _ :: _ => some ([], rest)
    | [] => none
  let exponent ←
    match rest with
    | _ :: exponent => exponent? exponent
    | [] => some 0
  if overflows (whole ++ fraction) (exponent - fraction.length) then none
  return .real

/-- The number that a given count of digits at the beginning of a text writes, and what follows
them. -/
def fixed? (count : Nat) (s : List Char) : Option (Nat × List Char) := do
  let digits := s.take count
  if digits.length ≠ count then none
  return (← Text.number? 10 digits, s.drop count)

/-- What follows a given character at the beginning of a text. -/
def behind? (c : Char) : List Char → Option (List Char)
  | [] => none
  | d :: s => if c = d then some s else none

/-- The number of days of a month. -/
def daysIn (year month : Nat) : Nat :=
  if month = 2 then if year % 4 = 0 ∧ (year % 100 ≠ 0 ∨ year % 400 = 0) then 29 else 28
  else if [4, 6, 9, 11].contains month then 30
  else 31

/-- What follows a date at the beginning of a text. -/
def behindDate? (s : List Char) : Option (List Char) := do
  let (year, s) ← fixed? 4 s
  let (month, s) ← fixed? 2 (← behind? '-' s)
  let (day, s) ← fixed? 2 (← behind? '-' s)
  if 1 ≤ month ∧ month ≤ 12 ∧ 1 ≤ day ∧ day ≤ daysIn year month then some s else none

/-- What follows a time of day at the beginning of a text. Seconds may be left out, and may be
sixty. -/
def behindTime? (s : List Char) : Option (List Char) := do
  let (hour, s) ← fixed? 2 s
  let (minute, s) ← fixed? 2 (← behind? ':' s)
  if hour > 23 ∨ minute > 59 then none
  match s with
  | ':' :: s =>
    let (second, s) ← fixed? 2 s
    if second > 60 then none
    match s with
    | '.' :: s => if s.head?.any Char.isDigit then some (s.dropWhile Char.isDigit) else none
    | _ => some s
  | _ => some s

/-- Whether a text is a distance from universal time. -/
def isOffset : List Char → Bool
  | [] => false
  | [z] => z = 'Z' ∨ z = 'z'
  | sign :: s =>
    let isClock := do
      let (hour, s) ← fixed? 2 s
      let (minute, s) ← fixed? 2 (← behind? ':' s)
      if hour ≤ 23 ∧ minute ≤ 59 ∧ s.isEmpty then some () else none
    (sign = '+' ∨ sign = '-') && isClock.isSome

/-- Whether a text is a date, a time of day, or a date with a time and possibly an offset. -/
def isMoment (s : List Char) : Bool :=
  match behindDate? s with
  | none => behindTime? s = some []
  | some [] => true
  | some (separator :: time) =>
    ['T', 't', ' '].contains separator &&
      (behindTime? time).any fun offset => offset.isEmpty || isOffset offset

/-- The value that a text without quotes and brackets writes. -/
def scalar? (s : List Char) : Option Toml :=
  if s = "true".toList then some (.truth true)
  else if s = "false".toList then some (.truth false)
  else if isMoment s then some .moment
  else integer? s <|> real? s

end ClassGraph.Toml
