import Mathlib.Data.Finset.Card
import Mathlib.Data.Finset.Filter
import Mathlib.Logic.Relation

/-!
# Acyclic relations

A relation is acyclic when no chain of its steps comes back to its start, so that of a cycle it
lacks a step (`Acyclic.exists_step_of_cycle`). One more step keeps it acyclic exactly when the step
does not close a chain (`acyclic_insert_iff`). Where all targets lie in a finite set, the targets
above an element grow along a step (`card_above_lt`) and those below it shrink (`card_below_lt`);
both bound the length of chains, and the second one gives an induction from the ends of the chains
upwards (`Acyclic.induction`). A chain that is longer than that meets a cycle
(`exists_cycle_of_isChain`), and a chain that ends, where no other way leads from its points, meets
none (`not_transGen_of_end`).
-/

open Relation

namespace ClassGraph

variable {α : Type}

/-- No chain of steps comes back to its start. -/
def Acyclic (r : α → α → Prop) : Prop := ∀ x, ¬ TransGen r x x

/-- A relation whose steps become steps of an acyclic one is acyclic. -/
theorem Acyclic.of_map {β : Type} {r : α → α → Prop} {s : β → β → Prop} (hs : Acyclic s)
    (f : α → β) (h : ∀ x y, r x y → s (f x) (f y)) : Acyclic r :=
  fun x hx => hs (f x) (TransGen.lift f h x x hx)

/-- Fewer steps close no more chains. -/
theorem Acyclic.mono {r s : α → α → Prop} (hs : Acyclic s) (h : ∀ x y, r x y → s x y) :
    Acyclic r :=
  hs.of_map id h

/-- The steps of a chain between points of a cycle lie on the cycle. -/
theorem transGen_on_cycle {r : α → α → Prop} {x a b : α} (h : TransGen r a b)
    (ha : ReflTransGen r x a) (hb : ReflTransGen r b x) :
    TransGen (fun c d => r c d ∧ ReflTransGen r x c ∧ ReflTransGen r d x) a b := by
  induction h with
  | single hab => exact .single ⟨hab, ha, hb⟩
  | @tail b c hab hbc ih =>
    exact (ih (hb.head hbc)).tail ⟨hbc, ha.trans hab.to_reflTransGen, hb⟩

/-- Of the steps of a cycle one is not a step of an acyclic relation. -/
theorem Acyclic.exists_step_of_cycle {β : Type} {r : α → α → Prop} {s : β → β → Prop}
    (hs : Acyclic s) (f : α → β) {x : α} (h : TransGen r x x) :
    ∃ a b, r a b ∧ ReflTransGen r x a ∧ ReflTransGen r b x ∧ ¬ s (f a) (f b) := by
  by_contra hall
  simp only [not_exists, not_and, not_not] at hall
  refine hs.of_map f (fun a b hab => ?_) x (transGen_on_cycle h .refl .refl)
  exact hall a b hab.1 hab.2.1 hab.2.2

/-- A chain that may use one more step either does not use it, or leads to its start and from its
end. -/
theorem transGen_insert {r : α → α → Prop} {s t x y : α}
    (h : TransGen (fun a b => r a b ∨ a = s ∧ b = t) x y) :
    TransGen r x y ∨ ReflTransGen r x s ∧ ReflTransGen r t y := by
  -- The induction is on the last step; the new one, where it is used, splits the chain there.
  induction h with
  | single h =>
    rcases h with h | ⟨rfl, rfl⟩
    · exact .inl (.single h)
    · exact .inr ⟨.refl, .refl⟩
  | tail _ h ih =>
    rcases h with h | ⟨rfl, rfl⟩
    · rcases ih with ih | ⟨hx, ht⟩
      · exact .inl (ih.tail h)
      · exact .inr ⟨hx, ht.tail h⟩
    · rcases ih with ih | ⟨hx, -⟩
      · exact .inr ⟨ih.to_reflTransGen, .refl⟩
      · exact .inr ⟨hx, .refl⟩

/-- One more step keeps a relation acyclic exactly when it does not close a chain. -/
theorem acyclic_insert_iff {r : α → α → Prop} {s t : α} :
    Acyclic (fun a b => r a b ∨ a = s ∧ b = t) ↔ Acyclic r ∧ ¬ ReflTransGen r t s := by
  constructor
  · intro h
    refine ⟨h.mono fun _ _ => .inl, fun hts => h s ?_⟩
    exact TransGen.head' (.inr ⟨rfl, rfl⟩) (ReflTransGen.mono (fun _ _ => .inl) _ _ hts)
  · rintro ⟨hr, hts⟩ x hx
    rcases transGen_insert hx with hx | ⟨hxs, htx⟩
    · exact hr x hx
    · -- A cycle through the new step leads from its end back to its start.
      exact hts (htx.trans hxs)

open Classical in
/-- The members of a set from which a chain leads to `y`, with `y` itself when it is one. -/
noncomputable def above (r : α → α → Prop) (targets : Finset α) (y : α) : Finset α :=
  targets.filter fun x => ReflTransGen r x y

open Classical in
/-- The members of a set to which a chain leads from `x`. -/
noncomputable def below (r : α → α → Prop) (targets : Finset α) (x : α) : Finset α :=
  targets.filter fun y => TransGen r x y

/-- What is above a point is what leads to it, in one step or more or none. -/
@[simp]
theorem mem_above {r : α → α → Prop} {targets : Finset α} {x y : α} :
    x ∈ above r targets y ↔ x ∈ targets ∧ ReflTransGen r x y := by
  simp [above]

/-- What is below a point is what it leads to in one step or more. -/
@[simp]
theorem mem_below {r : α → α → Prop} {targets : Finset α} {x y : α} :
    y ∈ below r targets x ↔ y ∈ targets ∧ TransGen r x y := by
  simp [below]

/-- No more points are above a point than there are. -/
theorem card_above_le (r : α → α → Prop) (targets : Finset α) (y : α) :
    (above r targets y).card ≤ targets.card :=
  Finset.card_le_card fun _ hx => (mem_above.mp hx).1

/-- No more points are below a point than there are. -/
theorem card_below_le (r : α → α → Prop) (targets : Finset α) (x : α) :
    (below r targets x).card ≤ targets.card :=
  Finset.card_le_card fun _ hy => (mem_below.mp hy).1

/-- Fewer targets are above the start of a step than above its end. -/
theorem card_above_lt {r : α → α → Prop} (hr : Acyclic r) {targets : Finset α} {x y : α}
    (hy : y ∈ targets) (hxy : r x y) : (above r targets x).card < (above r targets y).card := by
  apply Finset.card_lt_card
  rw [Finset.ssubset_iff_of_subset]
  · -- The end of the step is above itself and not above its start.
    refine ⟨y, mem_above.mpr ⟨hy, .refl⟩, fun h => ?_⟩
    exact hr y (TransGen.tail' (mem_above.mp h).2 hxy)
  · intro z hz
    obtain ⟨hz, hzx⟩ := mem_above.mp hz
    exact mem_above.mpr ⟨hz, hzx.tail hxy⟩

/-- Fewer targets are below the end of a step than below its start. -/
theorem card_below_lt {r : α → α → Prop} (hr : Acyclic r) {targets : Finset α} {x y : α}
    (hy : y ∈ targets) (hxy : r x y) : (below r targets y).card < (below r targets x).card := by
  apply Finset.card_lt_card
  rw [Finset.ssubset_iff_of_subset]
  · -- The end of the step is below its start and not below itself.
    exact ⟨y, mem_below.mpr ⟨hy, .single hxy⟩, fun h => hr y (mem_below.mp h).2⟩
  · intro z hz
    obtain ⟨hz, hyz⟩ := mem_below.mp hz
    exact mem_below.mpr ⟨hz, hyz.head hxy⟩

/-- What holds of an element when it holds of all elements one step below holds of every element,
where the targets of an acyclic relation lie in a finite set. -/
theorem Acyclic.induction {r : α → α → Prop} (hr : Acyclic r) (targets : Finset α)
    (htargets : ∀ x y, r x y → y ∈ targets) {motive : α → Prop}
    (step : ∀ x, (∀ y, r x y → motive y) → motive x) (x : α) : motive x := by
  induction h : (below r targets x).card using Nat.strong_induction_on generalizing x with
  | _ n ih =>
    refine step x fun y hxy => ih _ ?_ y rfl
    rw [← h]
    exact card_below_lt hr (htargets x y hxy) hxy

/-- A chain with more steps than there are points to step to meets a cycle. -/
theorem exists_cycle_of_isChain {r : α → α → Prop} {points : List α}
    (htargets : ∀ x y, r x y → y ∈ points) {x : α} {l : List α} (hchain : (x :: l).IsChain r)
    (hlength : points.length < l.length) : ∃ y, ReflTransGen r x y ∧ TransGen r y y := by
  have hpairwise : (x :: l).Pairwise (TransGen r) :=
    (hchain.imp fun _ _ => TransGen.single).pairwise
  obtain ⟨hstart, hlater⟩ := List.pairwise_cons.mp hpairwise
  have hsubset : l ⊆ points := fun y hy => by
    obtain ⟨z, -, hzy⟩ := TransGen.tail'_iff.mp (hstart y hy)
    exact htargets z y hzy
  by_contra hnone
  -- Without a cycle no point is met twice, and so there are as many points as steps.
  have hnodup : l.Nodup := by
    refine hlater.imp_of_mem ?_
    rintro y z hy - hyz rfl
    exact hnone ⟨y, (hstart y hy).to_reflTransGen, hyz⟩
  have hle : l.length ≤ points.length := (hnodup.subperm hsubset).length_le
  omega

/-- Where each point has at most one step, a chain that ends meets no cycle. -/
theorem not_transGen_of_end {r : α → α → Prop} (hr : Relator.RightUnique r) {x y : α}
    (hxy : ReflTransGen r x y) (hend : ∀ z, ¬ r y z) :
    ∀ {z : α}, ReflTransGen r x z → ¬ TransGen r z z := by
  induction hxy using ReflTransGen.head_induction_on with
  | refl =>
    intro z hyz hcycle
    rcases hyz.cases_head with rfl | ⟨w, hw, -⟩
    · obtain ⟨w, hw, -⟩ := TransGen.head'_iff.mp hcycle
      exact hend w hw
    · exact hend w hw
  | @head x w hxw _ ih =>
    intro z hxz hcycle
    rcases hxz.cases_head with rfl | ⟨w', hw', hwz⟩
    · -- A cycle through the start goes on with the only step, and so leads through its end.
      obtain ⟨w', hw', hwx⟩ := TransGen.head'_iff.mp hcycle
      obtain rfl := hr hxw hw'
      exact ih .refl (TransGen.tail' hwx hxw)
    · obtain rfl := hr hxw hw'
      exact ih hwz hcycle

/-- Where each point has at most one step, there is one point at which a chain can end. -/
theorem eq_of_end {r : α → α → Prop} (hr : Relator.RightUnique r) {x y z : α}
    (hxy : ReflTransGen r x y) (hy : ∀ w, ¬ r y w) (hxz : ReflTransGen r x z)
    (hz : ∀ w, ¬ r z w) : y = z := by
  have hstop : ∀ {a b : α}, (∀ w, ¬ r a w) → ReflTransGen r a b → a = b := by
    intro a b ha hab
    rcases hab.cases_head with heq | ⟨w, hw, -⟩
    · exact heq
    · exact absurd hw (ha w)
  rcases hxy.total_of_right_unique hr hxz with hyz | hzy
  · exact hstop hy hyz
  · exact (hstop hz hzy).symm

end ClassGraph
