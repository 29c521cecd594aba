import Mathlib.Logic.Function.Iterate
import ClassGraph.Proofs.Graph.Ownership

/-!
# Walks along compositions, step by step

The parts of an entity can be listed with a stack (`Descent`): an entity that is taken from it for
the first time goes back, marked, under its parts, and is listed when it is taken again. The owners
of an entity can be met with a cursor that goes from an entity to its owner (`Climb`).

In a well-formed graph both come to an end. A descent takes each entity that it lists twice, and
lists just what `partsFirst` gives (`WellFormed.iterate_descent`). A climb needs one step for each
composition at most, and another one, and then knows what `owns` says (`WellFormed.iterate_climb`).
-/

namespace ClassGraph.EntityGraph

/-! ## The descent to the parts -/

/-- A descent to parts. -/
structure Descent where
  /-- The entities that are to be taken, the next one first; those are marked whose parts have been
  put in front of them. -/
  stack : List (EntityId × Bool)
  /-- The entities that have been listed. -/
  order : List EntityId := []

namespace Descent

/-- What a descent from an entity begins with. -/
def start (root : EntityId) : Descent := { stack := [(root, false)] }

/-- Takes the next entity. One that is marked is listed; any other is marked, and its parts are put
in front of it, the last one first. -/
def next (g : EntityGraph) (d : Descent) : Descent :=
  match d.stack with
  | [] => d
  | (node, true) :: rest => ⟨rest, d.order ++ [node]⟩
  | (node, false) :: rest =>
    { d with stack := ((g.partsOf node).reverse.map (·, false)).reverse ++ (node, true) :: rest }

variable {g : EntityGraph} {d : Descent} {node : EntityId} {rest : List (EntityId × Bool)}
  {order : List EntityId}

/-- When the stack is empty, the descent has ended. -/
theorem next_of_nil (h : d.stack = []) : next g d = d := by
  unfold next
  rw [h]

/-- An entity that is taken for the first time comes back behind its parts. -/
theorem next_unmarked :
    next g ⟨(node, false) :: rest, order⟩ =
      ⟨(g.partsOf node).map (·, false) ++ (node, true) :: rest, order⟩ := by
  unfold next
  dsimp only
  rw [List.map_reverse, List.reverse_reverse]

/-- When the entities on top are listed each with its parts, they are listed one after the other. -/
theorem iterate_map_unmarked {nodes : List EntityId} (rest : List (EntityId × Bool))
    (order : List EntityId)
    (h : ∀ node ∈ nodes, ∀ rest order,
      (next g)^[2 * (g.partsFirst node).length] ⟨(node, false) :: rest, order⟩ =
        ⟨rest, order ++ g.partsFirst node⟩) :
    (next g)^[2 * (nodes.flatMap g.partsFirst).length] ⟨nodes.map (·, false) ++ rest, order⟩ =
      ⟨rest, order ++ nodes.flatMap g.partsFirst⟩ := by
  induction nodes generalizing order with
  | nil => simp
  | cons node nodes ih =>
    obtain ⟨hnode, hnodes⟩ := List.forall_mem_cons.mp h
    rw [List.flatMap_cons, List.length_append, Nat.mul_add, Nat.add_comm,
      Function.iterate_add_apply, List.map_cons, List.cons_append, hnode, ih _ hnodes,
      List.append_assoc]

end Descent

/-- A descent from an entity, above whatever else is on the stack, lists the entity behind all its
parts; it takes each of them twice. -/
theorem WellFormed.iterate_next_descent {g : EntityGraph} (h : g.WellFormed) (root : EntityId) :
    ∀ rest order,
      (Descent.next g)^[2 * (g.partsFirst root).length] ⟨(root, false) :: rest, order⟩ =
        ⟨rest, order ++ g.partsFirst root⟩ := by
  induction root using h.parts_induction with
  | step root ih =>
    intro rest order
    have hparts := Descent.iterate_map_unmarked ((root, true) :: rest) order ih
    -- The first step puts the parts on the stack, and the last one lists the entity itself.
    have hsteps : 2 * (g.partsFirst root).length =
        2 * ((g.partsOf root).flatMap g.partsFirst).length + 1 + 1 := by
      rw [h.partsFirst_eq, List.length_append, List.length_singleton]
      omega
    rw [hsteps, Function.iterate_succ_apply, Descent.next_unmarked, Function.iterate_succ_apply',
      hparts, h.partsFirst_eq root, ← List.append_assoc]
    rfl

/-- A descent from an entity ends, and has listed the entity behind all its parts. Nothing comes of
more steps. -/
theorem WellFormed.iterate_descent {g : EntityGraph} (h : g.WellFormed) (root : EntityId)
    {steps : Nat} (hsteps : 2 * (g.partsFirst root).length ≤ steps) :
    (Descent.next g)^[steps] (Descent.start root) = ⟨[], g.partsFirst root⟩ := by
  obtain ⟨more, rfl⟩ := Nat.exists_eq_add_of_le' hsteps
  rw [Function.iterate_add_apply, Descent.start, h.iterate_next_descent root, List.nil_append]
  exact Function.iterate_fixed (Descent.next_of_nil rfl) more

/-! ## The climb to the owners -/

/-- A climb to an ancestor. -/
structure Climb where
  /-- The entity that is to be looked at, when the climb has not ended. -/
  cursor : Option EntityId
  /-- Whether the ancestor has been met. -/
  found : Bool := false

namespace Climb

/-- What a climb from an entity begins with. -/
def start (node : EntityId) : Climb := { cursor := some node }

/-- Looks at the next entity. When it is the ancestor, the climb ends, and otherwise goes to its
owner. -/
def next (g : EntityGraph) (ancestor : EntityId) (c : Climb) : Climb :=
  match c.cursor with
  | none => c
  | some current =>
    if current = ancestor then ⟨none, true⟩ else { c with cursor := g.composerOf current }

variable {g : EntityGraph} {ancestor node : EntityId}

/-- Without an entity to look at, the climb has ended. -/
theorem iterate_next_ended (steps : Nat) (found : Bool) :
    (next g ancestor)^[steps] ⟨none, found⟩ = ⟨none, found⟩ :=
  Function.iterate_fixed rfl steps

/-- A climb that starts at the ancestor ends at once. -/
theorem next_start_self : next g node (start node) = ⟨none, true⟩ := if_pos rfl

/-- Any other climb goes on from the owner. -/
theorem next_start_of_ne (hne : node ≠ ancestor) :
    next g ancestor (start node) = ⟨g.composerOf node, false⟩ := if_neg hne

end Climb

/-- A climb with a step more than there are parts above its start ends, and knows whether the
ancestor is among the owners. -/
theorem WellFormed.iterate_next_climb {g : EntityGraph} (h : g.WellFormed) {ancestor : EntityId}
    (limit : Nat) : ∀ {node}, (above g.Composes g.composed node).card ≤ limit →
      (Climb.next g ancestor)^[limit + 1] (Climb.start node) =
        ⟨none, g.ownsWithin ancestor limit node⟩ := by
  induction limit with
  | zero =>
    intro node hcard
    rw [Function.iterate_one]
    unfold ownsWithin
    by_cases hnode : node = ancestor
    · subst hnode
      simp [Climb.next_start_self]
    · have hroot : g.composerOf node = none := by
        rw [h.composerOf_eq_none_iff]
        intro owner hc
        have := card_above_lt h.acyclic (h.mem_composed.mpr ⟨_, hc⟩) hc
        omega
      simp [Climb.next_start_of_ne hnode, hroot, hnode]
  | succ limit ih =>
    intro node hcard
    rw [Function.iterate_succ_apply]
    unfold ownsWithin
    by_cases hnode : node = ancestor
    · subst hnode
      simp [Climb.next_start_self, Climb.iterate_next_ended]
    · rw [Climb.next_start_of_ne hnode, beq_false_of_ne hnode, Bool.false_or]
      cases howner : g.composerOf node with
      | none => exact Climb.iterate_next_ended _ _
      | some owner =>
        have hc := h.composerOf_eq_some_iff.mp howner
        have := card_above_lt h.acyclic (h.mem_composed.mpr ⟨_, hc⟩) hc
        exact ih (by omega)

/-- A climb from an entity ends, and knows whether the ancestor owns the entity. -/
theorem WellFormed.iterate_climb {g : EntityGraph} (h : g.WellFormed) (ancestor node : EntityId) :
    (Climb.next g ancestor)^[g.composer.size + 1] (Climb.start node) =
      ⟨none, g.owns ancestor node⟩ :=
  h.iterate_next_climb _ ((card_above_le _ _ _).trans g.card_composed_le)

end ClassGraph.EntityGraph
