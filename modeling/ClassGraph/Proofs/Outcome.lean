import Mathlib.Data.List.Basic

/-!
# Outcomes

What it says of a computation that may fail that it did not: a mapped result comes from a result,
and a sequence has a result in each of its two steps, or in each of its many.
-/

namespace ClassGraph.Outcome

variable {ε α β : Type}

/-- A mapped computation succeeds with the image of a result. -/
theorem map_eq_ok_iff {x : Except ε α} {f : α → β} {b : β} :
    x.map f = .ok b ↔ ∃ a, x = .ok a ∧ f a = b := by
  cases x with
  | error e => simp [Except.map]
  | ok a => simp [Except.map]

/-- A sequence succeeds when both of its steps do. -/
theorem bind_eq_ok_iff {x : Except ε α} {f : α → Except ε β} {b : β} :
    x >>= f = .ok b ↔ ∃ a, x = .ok a ∧ f a = .ok b := by
  cases x with
  | error e => simp [bind, Except.bind]
  | ok a => simp [bind, Except.bind]

/-- A mapped computation fails as the computation does. -/
theorem map_eq_error_iff {x : Except ε α} {f : α → β} {e : ε} :
    x.map f = .error e ↔ x = .error e := by
  cases x with
  | error e' => simp [Except.map]
  | ok a => simp [Except.map]

/-- A sequence fails when its first step does, or the second behind it. -/
theorem bind_eq_error_iff {x : Except ε α} {f : α → Except ε β} {e : ε} :
    x >>= f = .error e ↔ x = .error e ∨ ∃ a, x = .ok a ∧ f a = .error e := by
  cases x with
  | error e' => simp [bind, Except.bind]
  | ok a => simp [bind, Except.bind]

/-- A first step that succeeds leaves the second. -/
theorem ok_bind {a : α} {f : α → Except ε β} : (.ok a : Except ε α) >>= f = f a := rfl

/-- A first step that fails fails the sequence. -/
theorem error_bind {e : ε} {f : α → Except ε β} : (.error e : Except ε α) >>= f = .error e := rfl

/-- A check of a list is one of its first member and then of the others. -/
theorem forM_cons (f : α → Except ε Unit) (a : α) (l : List α) :
    (a :: l).forM f = f a >>= fun _ => l.forM f := rfl

/-- A check of all members of a list passes when the check of each does. -/
theorem forM_eq_ok_iff {f : α → Except ε Unit} {l : List α} :
    l.forM f = .ok () ↔ ∀ a ∈ l, f a = .ok () := by
  induction l with
  | nil => simp [pure, Except.pure]
  | cons a l ih =>
    rw [forM_cons, List.forall_mem_cons]
    cases ha : f a with
    | error e => simp [error_bind]
    | ok => rw [ok_bind, ih, and_iff_right rfl]

/-- A list of computations has the results of its members, in its order. -/
theorem mapM_eq_ok_iff {f : α → Except ε β} {l : List α} :
    ∀ {results : List β}, l.mapM f = .ok results ↔ l.map f = results.map .ok := by
  induction l with
  | nil => simp [pure, Except.pure, eq_comm]
  | cons a l ih =>
    intro results
    rw [List.mapM_cons, List.map_cons]
    cases ha : f a with
    | error e =>
      rw [error_bind]
      cases results <;> simp
    | ok b =>
      rw [ok_bind, bind_eq_ok_iff]
      simp only [ih, pure, Except.pure, Except.ok.injEq]
      constructor
      · rintro ⟨more, hmore, rfl⟩
        rw [hmore, List.map_cons]
      · intro h
        cases results with
        | nil => cases h
        | cons b' more =>
          obtain ⟨hb, hmore⟩ := List.cons.inj h
          exact ⟨more, hmore, congrArg (· :: more) (Except.ok.inj hb)⟩

/-- A list of computations in some order fails as the first that fails. -/
theorem exists_of_mapM_eq_error {r : α → α → Prop} {f : α → Except ε β} {l : List α}
    (hl : l.Pairwise r) {e : ε} (h : l.mapM f = .error e) :
    ∃ a ∈ l, f a = .error e ∧ ∀ b ∈ l, (∀ c, f b ≠ .ok c) → b = a ∨ r a b := by
  induction l with
  | nil => cases h
  | cons a l ih =>
    rw [List.mapM_cons] at h
    obtain ⟨hfirst, hlater⟩ := List.pairwise_cons.mp hl
    cases ha : f a with
    | error e' =>
      rw [ha, error_bind] at h
      refine ⟨a, List.mem_cons_self, ha.trans (congrArg _ (Except.error.inj h)), ?_⟩
      exact List.forall_mem_cons.mpr ⟨fun _ => .inl rfl, fun b hb _ => .inr (hfirst b hb)⟩
    | ok c =>
      rw [ha, ok_bind, bind_eq_error_iff] at h
      rcases h with h | ⟨_, -, h⟩
      · obtain ⟨b, hb, hfb, hbefore⟩ := ih hlater h
        refine ⟨b, List.mem_cons_of_mem _ hb, hfb, ?_⟩
        exact List.forall_mem_cons.mpr ⟨fun hfails => absurd ha (hfails c), hbefore⟩
      · cases h

/-- A check of all members of a list fails as the list of their checks. -/
theorem forM_eq_error_iff {f : α → Except ε Unit} {l : List α} {e : ε} :
    l.forM f = .error e ↔ l.mapM f = .error e := by
  induction l with
  | nil => simp [pure, Except.pure]
  | cons a l ih =>
    rw [forM_cons, List.mapM_cons]
    cases f a with
    | error e' => rw [error_bind, error_bind]; simp
    | ok =>
      rw [ok_bind, ok_bind, ih, bind_eq_error_iff]
      simp [pure, Except.pure]

/-- A check of all members of a list in some order fails as the check of the first that fails. -/
theorem exists_of_forM_eq_error {r : α → α → Prop} {f : α → Except ε Unit} {l : List α}
    (hl : l.Pairwise r) {e : ε} (h : l.forM f = .error e) :
    ∃ a ∈ l, f a = .error e ∧ ∀ b ∈ l, f b ≠ .ok () → b = a ∨ r a b := by
  obtain ⟨a, ha, hfa, hfirst⟩ := exists_of_mapM_eq_error hl (forM_eq_error_iff.mp h)
  exact ⟨a, ha, hfa, fun b hb hfb => hfirst b hb fun _ => hfb⟩

/-- A list of computations that all succeed succeeds. -/
theorem exists_mapM_eq_ok {f : α → Except ε β} {l : List α} (h : ∀ a ∈ l, ∃ b, f a = .ok b) :
    ∃ results : List β, l.mapM f = .ok results := by
  simp only [mapM_eq_ok_iff]
  induction l with
  | nil => exact ⟨[], rfl⟩
  | cons a l ih =>
    rw [List.forall_mem_cons] at h
    obtain ⟨⟨b, hb⟩, hl⟩ := h
    obtain ⟨results, hresults⟩ := ih hl
    exact ⟨b :: results, by rw [List.map_cons, List.map_cons, hb, hresults]⟩

/-- Takes a step for each member of a list, each step in the state that the one before has left, and
returns what the steps return. -/
def stepEach {σ : Type} (step : σ → α → Except ε (β × σ)) (s : σ) :
    List α → Except ε (List β × σ)
  | [] => .ok ([], s)
  | a :: l => do
    let (b, s) ← step s a
    let (results, s) ← stepEach step s l
    return (b :: results, s)

/-- Steps succeed when the first does, and the others do behind it. -/
theorem stepEach_cons_eq_ok_iff {σ : Type} {step : σ → α → Except ε (β × σ)} {s s' : σ} {a : α}
    {l : List α} {results : List β} :
    stepEach step s (a :: l) = .ok (results, s') ↔ ∃ b s₁ more,
      step s a = .ok (b, s₁) ∧ stepEach step s₁ l = .ok (more, s') ∧ b :: more = results := by
  rw [stepEach, bind_eq_ok_iff, Prod.exists]
  constructor
  · rintro ⟨b, s₁, hfirst, hrest⟩
    obtain ⟨⟨more, s₂⟩, hothers, heq⟩ := bind_eq_ok_iff.mp hrest
    obtain ⟨hresults, rfl⟩ := Prod.mk.inj (Except.ok.inj heq)
    exact ⟨b, s₁, more, hfirst, hothers, hresults⟩
  · rintro ⟨b, s₁, more, hfirst, hothers, rfl⟩
    exact ⟨b, s₁, hfirst, bind_eq_ok_iff.mpr ⟨(more, s'), hothers, rfl⟩⟩

end ClassGraph.Outcome
