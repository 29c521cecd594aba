/-!
# Settings

What can be set for the extraction of relations and for the layout of diagrams, with the values
that hold where nothing is set.
-/

namespace ClassGraph

/-- Settings for the extraction of relations. -/
structure Extraction where
  /-- Further types that are values and are never related to. -/
  extraPrimitives : List String := []
  /-- Further types that are containers. -/
  extraCollections : List String := []
  /-- Whether types that are referred to and not declared become entities. -/
  includeExternal : Bool := false
deriving DecidableEq, Repr, Inhabited

/-- Settings for the layout of diagrams. -/
structure Layout where
  /-- The title of a diagram. -/
  title : Option String := none
  /-- The distance between neighbours. -/
  nodeSeparation : Nat := 50
  /-- The distance between ranks. -/
  rankSeparation : Nat := 60
  /-- The number of classes above which a diagram is large. -/
  largeThreshold : Nat := 15
  /-- What a large diagram adds to the distance between neighbours. -/
  largeNodeBonus : Nat := 30
  /-- What a large diagram adds to the distance between ranks. -/
  largeRankBonus : Nat := 40
  /-- The kind of lines. -/
  lineType : String := "polyline"
deriving DecidableEq, Repr, Inhabited

/-- All settings. -/
structure Settings where
  /-- Settings for the extraction of relations. -/
  extraction : Extraction := {}
  /-- Settings for the layout of diagrams. -/
  layout : Layout := {}
deriving DecidableEq, Repr, Inhabited

end ClassGraph
