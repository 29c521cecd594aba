import ClassGraph.Proofs.Graph.WellFormed

/-!
# Ownership

In a well-formed graph the compositions form a forest. Its chains are bounded by the number of
compositions: every step of a chain leads to an entity with an entry in the index of compositions,
and no entry is met twice. So the walk upwards of `owns` decides whether compositions lead from one
entity to the other (`owns_iff`), and the descent of `partsFirst` is the plain recursion over the
parts (`partsFirst_eq`), on which `WellFormed.parts_induction` gives induction.
-/

open Relation

namespace ClassGraph.EntityGraph

/-- The entities that the index of compositions knows to be parts. -/
def composed (g : EntityGraph) : Finset EntityId := g.composer.keys.toFinset

/-- There are no more parts than entries in the index of compositions. -/
theorem card_composed_le (g : EntityGraph) : g.composed.card ≤ g.composer.size := by
  calc g.composed.card ≤ g.composer.keys.length := List.toFinset_card_le _
    _ = g.composer.size := Std.ExtTreeMap.length_keys

/-- The parts that an index of compositions knows are those of the edges, where it agrees with
them. -/
theorem ComposerIndex.mem_composed {g : EntityGraph} (h : ComposerIndex g.composer g.edges)
    {part : EntityId} : part ∈ g.composed ↔ ∃ owner, g.Composes owner part := by
  rw [composed, List.mem_toFinset, Std.ExtTreeMap.mem_keys, Ordered.mem_iff_exists]
  constructor
  · rintro ⟨i, hi⟩
    obtain ⟨e, he, hkind, ht⟩ := (h part i).mp hi
    exact ⟨e.source, i, e, he, hkind, rfl, ht⟩
  · rintro ⟨owner, i, e, he, hkind, -, ht⟩
    exact ⟨i, (h part i).mpr ⟨e, he, hkind, ht⟩⟩

namespace WellFormed

variable {g : EntityGraph}

/-- The parts that the index knows are those that are composed. -/
theorem mem_composed (h : g.WellFormed) {part : EntityId} :
    part ∈ g.composed ↔ ∃ owner, g.Composes owner part :=
  h.indexed.composer.mem_composed

/-- What holds of an entity when it holds of all its parts holds of every entity. -/
theorem parts_induction (h : g.WellFormed) {motive : EntityId → Prop}
    (step : ∀ x, (∀ y ∈ g.partsOf x, motive y) → motive x) (x : EntityId) : motive x := by
  refine h.acyclic.induction g.composed (fun _ _ hc => h.mem_composed.mpr ⟨_, hc⟩) ?_ x
  exact fun x ih => step x fun y hy => ih y (h.mem_partsOf.mp hy)

/-! ## The walk to the owners -/

/-- The walk to the owners follows compositions. -/
theorem reflTransGen_of_ownsWithin (h : g.WellFormed) {ancestor : EntityId} (limit : Nat) :
    ∀ {node}, g.ownsWithin ancestor limit node = true → ReflTransGen g.Composes ancestor node := by
  induction limit with
  | zero =>
    intro node hw
    unfold ownsWithin at hw
    have hnode : node = ancestor := by simpa using hw
    rw [hnode]
  | succ limit ih =>
    intro node hw
    unfold ownsWithin at hw
    rcases (Bool.or_eq_true _ _).mp hw with hnode | hw
    · rw [beq_iff_eq.mp hnode]
    · cases howner : g.composerOf node with
      | none => simp [howner] at hw
      | some owner =>
        simp only [howner] at hw
        exact (ih hw).tail (h.composerOf_eq_some_iff.mp howner)

/-- The walk to the owners misses none when its limit covers the parts above its start. -/
theorem ownsWithin_of_reflTransGen (h : g.WellFormed) {ancestor : EntityId} (limit : Nat) :
    ∀ {node}, (above g.Composes g.composed node).card ≤ limit →
      ReflTransGen g.Composes ancestor node → g.ownsWithin ancestor limit node = true := by
  induction limit with
  | zero =>
    intro node hcard hchain
    unfold ownsWithin
    rcases hchain.cases_tail with hnode | ⟨owner, -, hc⟩
    · simp [hnode]
    · -- A node with an owner is a part above itself, and the limit allows for none.
      have := card_above_lt h.acyclic (h.mem_composed.mpr ⟨_, hc⟩) hc
      omega
  | succ limit ih =>
    intro node hcard hchain
    unfold ownsWithin
    rcases hchain.cases_tail with hnode | ⟨owner, hchain, hc⟩
    · simp [hnode]
    · -- The chain ends with a step from the one owner, to which the walk goes.
      have hlt := card_above_lt h.acyclic (h.mem_composed.mpr ⟨_, hc⟩) hc
      simp [h.composerOf_eq_some_iff.mpr hc, ih (by omega) hchain]

/-- An entity owns another exactly when compositions lead from it to the other. -/
theorem owns_iff (h : g.WellFormed) {ancestor node : EntityId} :
    g.owns ancestor node = true ↔ ReflTransGen g.Composes ancestor node := by
  refine ⟨h.reflTransGen_of_ownsWithin _, fun hchain => ?_⟩
  refine h.ownsWithin_of_reflTransGen _ ?_ hchain
  exact (card_above_le _ _ _).trans g.card_composed_le

/-! ## The descent to the parts -/

/-- The descent to the parts does not depend on its depth when that covers the parts below its
start. -/
theorem partsFirstWithin_eq (h : g.WellFormed) (depth : Nat) :
    ∀ {depth' x}, (below g.Composes g.composed x).card ≤ depth →
      (below g.Composes g.composed x).card ≤ depth' →
        g.partsFirstWithin depth x = g.partsFirstWithin depth' x := by
  -- Fewer parts are below a part, and an entity with none below it has no parts.
  have hlt : ∀ {x y}, y ∈ g.partsOf x →
      (below g.Composes g.composed y).card < (below g.Composes g.composed x).card := fun hy =>
    card_below_lt h.acyclic (h.mem_composed.mpr ⟨_, h.mem_partsOf.mp hy⟩) (h.mem_partsOf.mp hy)
  have hnil : ∀ {x}, (below g.Composes g.composed x).card ≤ 0 → g.partsOf x = [] := fun hx =>
    List.eq_nil_iff_forall_not_mem.mpr fun y hy => by have := hlt hy; omega
  induction depth with
  | zero =>
    intro depth' x hd hd'
    cases depth' with
    | zero => rfl
    | succ depth' => simp [partsFirstWithin, hnil hd]
  | succ depth ih =>
    intro depth' x hd hd'
    cases depth' with
    | zero => simp [partsFirstWithin, hnil hd']
    | succ depth' =>
      unfold partsFirstWithin
      congr 1
      refine List.flatMap_congr fun y hy => ih ?_ ?_
      · have := hlt hy
        omega
      · have := hlt hy
        omega

/-- The parts of an entity come part by part, each behind its own parts, and the entity last. -/
theorem partsFirst_eq (h : g.WellFormed) (x : EntityId) :
    g.partsFirst x = (g.partsOf x).flatMap g.partsFirst ++ [x] := by
  have hcard : ∀ y, (below g.Composes g.composed y).card ≤ g.composer.size :=
    fun y => (card_below_le _ _ y).trans g.card_composed_le
  calc g.partsFirst x = g.partsFirstWithin (g.composer.size + 1) x :=
        h.partsFirstWithin_eq _ (hcard x) ((hcard x).trans (Nat.le_succ _))
    _ = (g.partsOf x).flatMap g.partsFirst ++ [x] := rfl

/-- The members of the descent are the entity and all its parts, direct or not. -/
theorem mem_partsFirst (h : g.WellFormed) {x y : EntityId} :
    y ∈ g.partsFirst x ↔ ReflTransGen g.Composes x y := by
  induction x using h.parts_induction with
  | step x ih =>
    rw [h.partsFirst_eq, List.mem_append, List.mem_flatMap, List.mem_singleton,
      ReflTransGen.cases_head_iff, or_comm, eq_comm]
    refine or_congr_right (exists_congr fun part => ?_)
    rw [← h.mem_partsOf]
    exact and_congr_right fun hp => ih part hp

/-! ## Siblings -/

/-- Of two entities with a common part, direct or not, one has the other among its parts. -/
theorem chain_total (h : g.WellFormed) {a b x : EntityId} (hax : ReflTransGen g.Composes a x)
    (hbx : ReflTransGen g.Composes b x) :
    ReflTransGen g.Composes a b ∨ ReflTransGen g.Composes b a := by
  -- Owners are unique, so that one of the two chains upwards from `x` goes on from the other.
  have huniq : Relator.RightUnique (Function.swap g.Composes) :=
    fun _ _ _ ho ho' => h.owner_unique ho ho'
  have htotal := ReflTransGen.total_of_right_unique huniq (ReflTransGen.swap _ _ hbx)
    (ReflTransGen.swap _ _ hax)
  exact htotal.imp (ReflTransGen.swap _ _) (ReflTransGen.swap _ _)

/-- No entity is a part of two siblings, directly or not. -/
theorem eq_of_common_part (h : g.WellFormed) {owner a b x : EntityId} (ha : g.Composes owner a)
    (hb : g.Composes owner b) (hax : ReflTransGen g.Composes a x)
    (hbx : ReflTransGen g.Composes b x) : a = b := by
  -- A chain between two different siblings ends with a step from their owner.
  have hchain : ∀ {a b}, g.Composes owner a → g.Composes owner b →
      ReflTransGen g.Composes a b → a = b := by
    intro a b ha hb hab
    rcases hab.cases_tail with heq | ⟨owner', hchain, hc⟩
    · exact heq.symm
    · obtain rfl := h.owner_unique hc hb
      exact absurd (TransGen.head' ha hchain) (h.acyclic _)
  rcases h.chain_total hax hbx with hab | hba
  · exact hchain ha hb hab
  · exact (hchain hb ha hba).symm

end WellFormed

end ClassGraph.EntityGraph
