/-!
# JSON values

A JSON text stands for a value of `Json`: numbers are kept as integers where they are written as
integers, and as written otherwise, and objects are lists of members in the order of the text. The
accessors answer nothing for a value of another kind.
-/

namespace ClassGraph

/-- A JSON value. -/
inductive Json where
  /-- The value `null`. -/
  | null
  /-- A truth value. -/
  | bool (b : Bool)
  /-- A number written without fraction and exponent, other than `-0`. -/
  | integer (n : Int)
  /-- Any other number, as written. -/
  | real (text : String)
  /-- A text. -/
  | string (s : String)
  /-- An array of values. -/
  | array (items : List Json)
  /-- An object, as its members in order. -/
  | object (members : List (String × Json))
deriving Inhabited, Repr, BEq

namespace Json

/-- A natural number as a value. -/
def ofNat (n : Nat) : Json := .integer (Int.ofNat n)

/-- An array of texts. -/
def ofStrings (texts : List String) : Json := .array (texts.map .string)

/-- The object of those members that have a value. -/
def objectOfPresent (members : List (String × Option Json)) : Json :=
  .object (members.filterMap fun (key, value) => value.map (key, ·))

/-- The text that a value is. -/
def string? : Json → Option String
  | .string s => some s
  | _ => none

/-- The truth value that a value is. -/
def bool? : Json → Option Bool
  | .bool b => some b
  | _ => none

/-- The items of an array. -/
def array? : Json → Option (List Json)
  | .array items => some items
  | _ => none

/-- The members of an object. -/
def object? : Json → Option (List (String × Json))
  | .object members => some members
  | _ => none

/-- The natural number below `bound` that a value is. -/
def natBelow? (bound : Nat) : Json → Option Nat
  | .integer (.ofNat n) => if n < bound then some n else none
  | _ => none

/-- The texts of an array of texts. -/
def strings? (j : Json) : Option (List String) := do
  let items ← j.array?
  items.mapM string?

/-- The value under a key of an object; of several members with the key the last one counts. -/
def member? (key : String) : Json → Option Json
  | .object members => (members.reverse.find? fun m => m.1 == key).map (·.2)
  | _ => none

end Json

end ClassGraph
