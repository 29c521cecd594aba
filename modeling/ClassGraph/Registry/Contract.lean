import ClassGraph.Registry.Basic

/-!
# Contracts of a registry

What a registry says of its types: the chain of bases, subtyping, the operations that a role
requires and a type leaves unbound, and the roles that a new instance carries.
-/

namespace ClassGraph

/-- Why a type cannot carry a role or have an instance. -/
inductive ContractError where
  /-- No type has this name. -/
  | unknownType (tag : String)
  /-- The type has no instances of its own. -/
  | abstractType (tag : String)
  /-- No role has this name. -/
  | unknownRole (tag : String)
  /-- The type leaves operations unbound that the role requires. -/
  | unbound (tag role : String) (missing : List Operation)
deriving DecidableEq, Repr

/-- The wording of a violated contract. -/
def ContractError.message : ContractError → String
  | .unknownType tag => s!"type {tag} is not registered"
  | .abstractType tag => s!"type {tag} is abstract and cannot be instantiated"
  | .unknownRole tag => s!"role {tag} is not registered"
  | .unbound tag role missing =>
    let operations := Text.quotedList (missing.map Operation.text)
    s!"type {tag} does not bind {operations} required by role {role}"

namespace Registry

/-- The bases above a type, nearest first, up to `limit` of them. -/
def basesWithin (r : Registry) : Nat → Option TypeDef → List String
  | 0, _ => []
  | limit + 1, type =>
    match type.bind (·.base) with
    | none => []
    | some base => base :: r.basesWithin limit r.types[base]?

/-- The bases of a type, nearest first; none for an unknown type. A chain without repetition has
fewer bases than there are types. -/
def basesOf (r : Registry) (tag : String) : List String :=
  r.basesWithin r.types.size r.types[tag]?

/-- Whether a type is the other or inherits from it. -/
def isSubtype (r : Registry) (tag ancestor : String) : Bool :=
  (tag == ancestor && r.types.contains tag) || (r.basesOf tag).contains ancestor

/-- The operations that a role requires and a type leaves unbound, in their order. -/
def missing (r : Registry) (tag role : String) : Except ContractError (List Operation) :=
  match r.types[tag]?, r.roles[role]? with
  | none, _ => .error (.unknownType tag)
  | some _, none => .error (.unknownRole role)
  | some type, some role => .ok (role.required.toList.filter fun op => !type.binds op)

/-- Refuses a role that a type does not fulfil. -/
def checkRole (r : Registry) (tag role : String) : Except ContractError Unit := do
  let missing ← r.missing tag role
  if missing.isEmpty then return () else .error (.unbound tag role missing)

/-- The roles of a new instance: those that are asked for and those that its type carries. Of
several faults the one of the least role is reported. -/
def rolesOfInstance (r : Registry) (tag : String) (requested : List String) :
    Except ContractError NameSet :=
  match r.types[tag]? with
  | none => .error (.unknownType tag)
  | some type =>
    if type.isAbstract then .error (.abstractType tag)
    else
      let roles := type.roles ∪ .ofList requested
      (roles.toList.forM (r.checkRole tag)).map fun _ => roles

end Registry

end ClassGraph
