import ClassGraph.Proofs.Graph.Walk

/-!
# What a walk yields

A walk that is drained yields one entity with each step until there is no next one (`Yields`). Every
walk ends, and the bound on the number of steps in `rest` cuts none off (`yields_iff_rest`). A walk
that has taken some entities is a value of its own: whoever drains it gets what was left of the
list (`yields_take_iff`).
-/

namespace ClassGraph.Walk

/-- A walk that is drained yields these entities, and then there is no next one. -/
inductive Yields : Walk → List EntityId → Prop
  /-- There is no next entity. -/
  | done {w : Walk} : w.next? = none → Yields w []
  /-- The next entity is in front of those that the rest of the walk yields. -/
  | step {w w' : Walk} {node : EntityId} {nodes : List EntityId} :
    w.next? = some (node, w') → Yields w' nodes → Yields w (node :: nodes)

/-- Draining a walk leaves no choice. -/
theorem Yields.unique {w : Walk} {nodes nodes' : List EntityId} (h : w.Yields nodes)
    (h' : w.Yields nodes') : nodes = nodes' := by
  induction h generalizing nodes' with
  | done hnone =>
    cases h' with
    | done => rfl
    | step hsome => simp [hnone] at hsome
  | step hsome _ ih =>
    cases h' with
    | done hnone => simp [hnone] at hsome
    | step hsome' hrest =>
      obtain ⟨rfl, rfl⟩ := Prod.mk.inj (Option.some.inj (hsome.symm.trans hsome'))
      rw [ih hrest]

/-- A walk yields an entity first exactly when that is the next one and the others follow. -/
theorem yields_cons_iff {w w' : Walk} {node : EntityId} (hnext : w.next? = some (node, w'))
    (nodes : List EntityId) : w.Yields (node :: nodes) ↔ w'.Yields nodes := by
  refine ⟨fun h => ?_, .step hnext⟩
  cases h with
  | step hsome hrest =>
    obtain ⟨-, rfl⟩ := Prod.mk.inj (Option.some.inj (hnext.symm.trans hsome))
    exact hrest

/-- A walk is drained by as many steps as entities wait or can still be met. -/
theorem yields_take (count : Nat) :
    ∀ {w : Walk}, w.remaining ≤ count → w.Yields (w.take count).1 := by
  -- Each step takes one off what remains, and when nothing remains, nothing waits.
  induction count with
  | zero =>
    intro w hle
    have hqueue : w.queue = [] := List.length_eq_zero_iff.mp (by unfold remaining at hle; omega)
    exact .done (next?_nil hqueue)
  | succ count ih =>
    intro w hle
    cases hqueue : w.queue with
    | nil =>
      rw [take_nil hqueue]
      exact .done (next?_nil hqueue)
    | cons node queue =>
      have hle' : ({ w with queue }.expand node).remaining ≤ count := by
        have := remaining_next hqueue
        omega
      rw [take_succ_cons hqueue]
      exact .step (next?_cons hqueue) (ih hle')

/-- Every walk ends, and yields its rest. -/
theorem yields_iff_rest {w : Walk} {nodes : List EntityId} : w.Yields nodes ↔ w.rest = nodes := by
  have hrest : w.Yields w.rest := yields_take _ (remaining_le w)
  exact ⟨hrest.unique, fun heq => heq ▸ hrest⟩

/-- Behind some steps, a walk yields what it would have yielded, without what has been taken. -/
theorem yields_take_iff (count : Nat) : ∀ {w : Walk} {nodes : List EntityId},
    (w.take count).2.Yields nodes ↔ w.rest = (w.take count).1 ++ nodes := by
  suffices hyields : ∀ {w : Walk} {nodes : List EntityId},
      (w.take count).2.Yields nodes ↔ w.Yields ((w.take count).1 ++ nodes) from
    fun {_ _} => hyields.trans yields_iff_rest
  induction count with
  | zero => exact fun {_ _} => Iff.rfl
  | succ count ih =>
    intro w nodes
    cases hqueue : w.queue with
    | nil =>
      rw [take_nil hqueue]
      rfl
    | cons node queue =>
      rw [take_succ_cons hqueue]
      exact ih.trans (yields_cons_iff (next?_cons hqueue) _).symm

/-- The rest of a walk is what some steps take and the rest of the walk behind them. -/
theorem rest_eq_append (w : Walk) (count : Nat) :
    w.rest = (w.take count).1 ++ (w.take count).2.rest :=
  (yields_take_iff count).mp (yields_iff_rest.mpr rfl)

end ClassGraph.Walk
