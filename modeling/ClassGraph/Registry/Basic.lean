import Std.Data.ExtTreeMap
import Std.Data.ExtTreeSet
import ClassGraph.Text.Quoted

/-!
# Types and roles

A role is a contract: the operations that every type carrying it must bind. A type has at most one
base and inherits its operations and roles. `Declarations` collects both, and
`Declarations.build` resolves them into a `Registry`, in which each type holds all that it
inherits.
-/

namespace ClassGraph

/-- The signature of an operation: its name and the number of its parameters. -/
structure Operation where
  /-- The name. -/
  name : String
  /-- The number of parameters. -/
  arity : Nat
deriving DecidableEq, Repr, Inhabited

/-- Operations are ordered by name, and those of one name by arity. -/
instance : Ord Operation := ⟨compareLex (compareOn Operation.name) (compareOn Operation.arity)⟩

instance : Std.TransOrd Operation :=
  inferInstanceAs (Std.TransCmp (compareLex (compareOn Operation.name) (compareOn Operation.arity)))

instance : Std.LawfulEqOrd Operation where
  eq_of_compare := by
    intro a b h
    have h : compareLex (compareOn Operation.name) (compareOn Operation.arity) a b = .eq := h
    simp only [compareLex_eq_eq, compareOn, Std.LawfulEqOrd.compare_eq_iff_eq] at h
    cases a
    cases b
    simp_all

/-- The name of an operation with its arity. -/
def Operation.text (op : Operation) : String := op.name ++ "/" ++ toString op.arity

/-- A set of operations, in their order. -/
abbrev OperationSet := Std.ExtTreeSet Operation

/-- A set of names, in their order. -/
abbrev NameSet := Std.ExtTreeSet String

/-- A contract that types can carry. -/
structure Role where
  /-- The name of the role. -/
  tag : String
  /-- The operations that a type with the role must bind. -/
  required : OperationSet

/-- The declaration of a type. -/
structure TypeDecl where
  /-- The name of the type. -/
  tag : String
  /-- The type that it extends. -/
  base : Option String := none
  /-- Whether the type has no instances of its own. -/
  isAbstract : Bool := false
  /-- The operations that the type itself binds. -/
  operations : OperationSet := ∅
  /-- The roles that the type itself carries. -/
  roles : NameSet := ∅

/-- A type together with all that it inherits. -/
structure TypeDef where
  /-- The name of the type. -/
  tag : String
  /-- The type that it extends. -/
  base : Option String
  /-- Whether the type has no instances of its own. -/
  isAbstract : Bool
  /-- The operations bound by the type or by one that it inherits from. -/
  operations : OperationSet
  /-- The roles carried by the type or by one that it inherits from. -/
  roles : NameSet

/-- Whether a type binds an operation. -/
def TypeDef.binds (type : TypeDef) (op : Operation) : Bool := type.operations.contains op

/-- Why declarations are refused. -/
inductive DeclarationError where
  /-- A type of this name is there already. -/
  | duplicateType (tag : String)
  /-- A role of this name is there already. -/
  | duplicateRole (tag : String)
  /-- A type extends one that is not declared. -/
  | unknownBase (tag base : String)
  /-- The bases of a type never end. -/
  | inheritanceCycle (tag : String)
  /-- A type carries a role that is not declared. -/
  | unknownRole (tag role : String)
deriving DecidableEq, Repr

/-- The wording of a refusal. -/
def DeclarationError.message : DeclarationError → String
  | .duplicateType tag => s!"type {tag} declared twice"
  | .duplicateRole tag => s!"role {tag} declared twice"
  | .unknownBase tag base => s!"type {tag} extends unknown base {base}"
  | .inheritanceCycle tag => s!"inheritance cycle through {tag}"
  | .unknownRole tag role => s!"type {tag} declares unknown role {role}"

/-- Roles and types as they are declared, each under its name. -/
structure Declarations where
  /-- The roles. -/
  roles : Std.ExtTreeMap String Role := ∅
  /-- The types. -/
  types : Std.ExtTreeMap String TypeDecl := ∅

/-- The resolved types and the roles, each under its name. -/
structure Registry where
  /-- The types. -/
  types : Std.ExtTreeMap String TypeDef := ∅
  /-- The roles. -/
  roles : Std.ExtTreeMap String Role := ∅

namespace Declarations

/-- Adds a role. -/
def declareRole (d : Declarations) (tag : String) (required : List Operation) :
    Except DeclarationError Declarations :=
  if d.roles.contains tag then .error (.duplicateRole tag)
  else .ok { d with roles := d.roles.insert tag ⟨tag, .ofList required⟩ }

/-- Adds a type. -/
def declareType (d : Declarations) (decl : TypeDecl) : Except DeclarationError Declarations :=
  if d.types.contains decl.tag then .error (.duplicateType decl.tag)
  else .ok { d with types := d.types.insert decl.tag decl }

/-- The bases above `decl`, nearest first, when there are at most `limit` of them. A longer chain
is a cycle through the type that the walk began with. -/
def basesWithin (d : Declarations) (start : String) (limit : Nat) (decl : TypeDecl) :
    Except DeclarationError (List TypeDecl) :=
  match decl.base with
  | none => .ok []
  | some tag =>
    match d.types[tag]? with
    | none => .error (.unknownBase decl.tag tag)
    | some base =>
      match limit with
      | 0 => .error (.inheritanceCycle start)
      | limit + 1 => (d.basesWithin start limit base).map (base :: ·)

/-- The bases of a declared type, nearest first. A chain without repetition has fewer bases than
there are types. -/
def basesOf (d : Declarations) (decl : TypeDecl) : Except DeclarationError (List TypeDecl) :=
  d.basesWithin decl.tag d.types.size decl

/-- A declared type with all that it inherits. -/
def resolve (d : Declarations) (decl : TypeDecl) : Except DeclarationError TypeDef := do
  let line := decl :: (← d.basesOf decl)
  let roles := line.foldl (fun all t => all ∪ t.roles) ∅
  match roles.toList.find? fun role => !d.roles.contains role with
  | some role => .error (.unknownRole decl.tag role)
  | none => .ok {
      tag := decl.tag
      base := decl.base
      isAbstract := decl.isAbstract
      operations := line.foldl (fun all t => all ∪ t.operations) ∅
      roles := roles }

/-- The registry of the declarations; of several faults the one of the least type is reported. -/
def build (d : Declarations) : Except DeclarationError Registry := do
  let resolved ← d.types.toList.mapM fun (tag, decl) => return (tag, ← d.resolve decl)
  return { types := .ofList resolved, roles := d.roles }

end Declarations

end ClassGraph
