import ClassGraph.Keyed

/-!
# TOML values

A TOML document is a table. Tables remember how they came to be, because that decides who may add
to them: `Members.assign?`, `Members.open?` and `Members.append?` are the three ways in which a
document grows, and each answers nothing where it would define something twice.
-/

namespace ClassGraph

/-- How a table came to be. -/
inductive Toml.Origin where
  /-- Written between curly brackets; nothing can be added. -/
  | closed
  /-- Implied by a header for a table inside of it. -/
  | implied
  /-- Made by a key with dots. -/
  | dotted
  /-- Opened by a header of its own. -/
  | stated
deriving DecidableEq, Repr, Inhabited

/-- A TOML value. -/
inductive Toml where
  /-- A text. -/
  | text (s : String)
  /-- An integer. -/
  | integer (n : Int)
  /-- Any other number. -/
  | real
  /-- A truth value. -/
  | truth (b : Bool)
  /-- A date, a time, or both. -/
  | moment
  /-- An array of values. -/
  | array (items : List Toml)
  /-- A table. -/
  | table (origin : Toml.Origin) (members : List (String × Toml))
  /-- An array of tables that headers open one by one; the last one, and the earlier ones from the
  latest on. -/
  | tables (last : List (String × Toml)) (earlier : List (List (String × Toml)))
deriving Inhabited, Repr

namespace Toml

/-- The members of a table in order. -/
abbrev Members := List (String × Toml)

namespace Members

/-- The members, with those of the table at a path changed by `change?`. Missing tables are made. A
key with dots passes through what it made itself; a header passes through all that is open, and
through the last table of an array of tables. -/
def within? (isDotted : Bool) (change? : Origin → Members → Option Members) (origin : Origin) :
    List String → Members → Option Members
  | [], members => change? origin members
  | key :: path, members =>
    match members.lookup key with
    | none =>
      let made := if isDotted then .dotted else .implied
      (within? isDotted change? made path []).map fun inner =>
        Keyed.put key (.table made inner) members
    | some (.table origin inner) =>
      if origin = .closed ∨ (isDotted ∧ origin = .stated) then none
      else
        (within? isDotted change? origin path inner).map fun inner =>
          Keyed.put key (.table origin inner) members
    | some (.tables last earlier) =>
      if isDotted then none
      else
        (within? isDotted change? .stated path last).map fun last =>
          Keyed.put key (.tables last earlier) members
    | some _ => none

/-- The members with one more value, under a key with dots. -/
def assign? (path : List String) (value : Toml) (members : Members) : Option Members := do
  let key ← path.getLast?
  let add? (origin : Origin) (inner : Members) : Option Members :=
    let isForeign := path.length > 1 && origin ≠ .dotted
    if isForeign || (inner.lookup key).isSome then none else some (Keyed.put key value inner)
  within? true add? .stated path.dropLast members

/-- The members with one more table, opened by a header. -/
def open? (path : List String) (members : Members) : Option Members := do
  let key ← path.getLast?
  let add? (_ : Origin) (inner : Members) : Option Members :=
    match inner.lookup key with
    | none => some (Keyed.put key (.table .stated []) inner)
    | some (.table .implied held) => some (Keyed.put key (.table .stated held) inner)
    | some _ => none
  within? false add? .stated path.dropLast members

/-- The members with one more table in an array of tables, opened by a header. -/
def append? (path : List String) (members : Members) : Option Members := do
  let key ← path.getLast?
  let add? (_ : Origin) (inner : Members) : Option Members :=
    match inner.lookup key with
    | none => some (Keyed.put key (.tables [] []) inner)
    | some (.tables last earlier) => some (Keyed.put key (.tables [] (last :: earlier)) inner)
    | some _ => none
  within? false add? .stated path.dropLast members

end Members

/-- A line of a document. -/
inductive Statement where
  /-- The header of a table. -/
  | header (path : List String)
  /-- The header of one more table in an array of tables. -/
  | item (path : List String)
  /-- A value for a key of the table that was opened last. -/
  | assignment (path : List String) (value : Toml)

/-- The document behind one more statement, and the path of the table that was opened last. -/
def extend? (document : Members × List String) : Statement → Option (Members × List String)
  | .header path => (document.1.open? path).map (·, path)
  | .item path => (document.1.append? path).map (·, path)
  | .assignment path value =>
    (document.1.within? false (fun _ inner => inner.assign? path value) .stated document.2).map
      (·, document.2)

/-- The document that statements make up. -/
def ofStatements? (statements : List Statement) : Option Members :=
  (statements.foldlM extend? ([], [])).map Prod.fst

/-- The text that a value is. -/
def text? : Toml → Option String
  | .text s => some s
  | _ => none

/-- The natural number below `bound` that a value is. -/
def natural? (bound : Nat) : Toml → Option Nat
  | .integer n => if 0 ≤ n ∧ n < bound then some n.toNat else none
  | _ => none

/-- The truth value that a value is. -/
def truth? : Toml → Option Bool
  | .truth b => some b
  | _ => none

/-- The texts that an array holds. -/
def texts? : Toml → Option (List String)
  | .array items => items.mapM text?
  | _ => none

end Toml

end ClassGraph
