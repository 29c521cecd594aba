import ClassGraph.Text.Character

/-!
# Kinds of relation

A relation between two classes, and an edge between two entities, is of one of four kinds. Only
`composition` binds lifetimes. Traversals are filtered by a set of kinds, and `contains_ofList` says
what a set holds.
-/

namespace ClassGraph

/-- The kind of a relation. -/
inductive RelationKind where
  /-- Exclusive ownership: the target lives and dies with the source. -/
  | composition
  /-- Grouping without ownership. -/
  | aggregation
  /-- A stored reference. -/
  | association
  /-- A use in a signature that is not stored. -/
  | dependency
deriving DecidableEq, Repr, Inhabited

namespace RelationKind

/-- Every kind, in the order of the declarations. -/
def all : List RelationKind := [.composition, .aggregation, .association, .dependency]

/-- The word for a kind. -/
def name : RelationKind → String
  | .composition => "composition"
  | .aggregation => "aggregation"
  | .association => "association"
  | .dependency => "dependency"

/-- The kind that a word in lower case names. -/
def ofName? (word : String) : Option RelationKind := all.find? fun kind => kind.name == word

/-- The kind that a word names, capitals or not. -/
def parse? (word : String) : Option RelationKind := ofName? (Text.toLowerAscii word)

/-- What is said of a word that names no kind. -/
def unknownMessage (word : String) : String := s!"unknown edge kind: {word}"

/-- Whether a kind is stored in a field; every kind but `dependency` is. -/
def isStructural (kind : RelationKind) : Bool := kind != .dependency

/-- A kind of relation is found by its word. -/
theorem ofName?_name (kind : RelationKind) : ofName? kind.name = some kind := by
  cases kind <;> rfl

end RelationKind

/-- The multiplicity that an association states. -/
inductive Cardinality where
  /-- At most one target. -/
  | one
  /-- Any number of targets. -/
  | many
deriving DecidableEq, Repr, Inhabited

namespace Cardinality

/-- The word for a multiplicity. -/
def name : Cardinality → String
  | .one => "one"
  | .many => "many"

/-- The multiplicity that a word names. -/
def ofName? : String → Option Cardinality
  | "one" => some .one
  | "many" => some .many
  | _ => none

/-- A cardinality is found by its word. -/
theorem ofName?_name (c : Cardinality) : ofName? c.name = some c := by cases c <;> rfl

end Cardinality

/-- A set of relation kinds. -/
structure KindSet where
  /-- Whether compositions are in the set. -/
  composition : Bool := false
  /-- Whether aggregations are in the set. -/
  aggregation : Bool := false
  /-- Whether associations are in the set. -/
  association : Bool := false
  /-- Whether dependencies are in the set. -/
  dependency : Bool := false
deriving DecidableEq, Repr, Inhabited

namespace KindSet

/-- The set without members. -/
def none : KindSet := {}

/-- The set of all kinds. -/
def all : KindSet := ⟨true, true, true, true⟩

/-- The kinds that bind lifetimes. -/
def ownership : KindSet := { composition := true }

/-- The kinds that say what a class uses. -/
def usage : KindSet := { association := true, dependency := true }

/-- Whether a kind is in the set. -/
def contains (kinds : KindSet) : RelationKind → Bool
  | .composition => kinds.composition
  | .aggregation => kinds.aggregation
  | .association => kinds.association
  | .dependency => kinds.dependency

/-- The set with one more kind. -/
def insert (kinds : KindSet) : RelationKind → KindSet
  | .composition => { kinds with composition := true }
  | .aggregation => { kinds with aggregation := true }
  | .association => { kinds with association := true }
  | .dependency => { kinds with dependency := true }

/-- The set of the kinds in a list. -/
def ofList (kinds : List RelationKind) : KindSet := kinds.foldl insert none

/-- Whether the set has no members. -/
def isEmpty (kinds : KindSet) : Bool := kinds == none

/-- The members of a set in the order of the declarations. -/
def toList (kinds : KindSet) : List RelationKind := RelationKind.all.filter kinds.contains

/-- A set of kinds with one more has this one and those that it had. -/
theorem contains_insert (kinds : KindSet) (a b : RelationKind) :
    (kinds.insert a).contains b = (a == b || kinds.contains b) := by
  cases a <;> cases b <;> simp [insert, contains]

/-- The set of a list of kinds has those of the list. -/
theorem contains_ofList (kinds : List RelationKind) (a : RelationKind) :
    (ofList kinds).contains a = kinds.contains a := by
  have h (s : KindSet) :
      (kinds.foldl insert s).contains a = (s.contains a || kinds.contains a) := by
    induction kinds generalizing s with
    | nil => simp
    | cons k ks ih => rw [List.foldl_cons, ih, contains_insert]; grind
  have hn : none.contains a = false := by cases a <;> rfl
  rw [ofList, h, hn, Bool.false_or]

end KindSet

end ClassGraph
