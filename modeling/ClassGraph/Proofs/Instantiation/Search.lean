import Mathlib.Logic.Function.Iterate
import ClassGraph.Proofs.Instantiation.Roles

/-!
# Searching for the interfaces above a name

The interfaces that an interface leads to can be searched for with a list of names that are still to
be looked at (`Search`). The list may grow while nothing new is found, and names come to stand in it
again and again where interfaces extend each other in a circle. Still each interface puts the names
that it extends on the list once only, so that the names on the list and those that may yet be put
on it become one less with every name that is looked at (`remaining_next`). So the search ends; what
it has found then is the closure of the name (`Tracks.found_eq`).
-/

open Relation

namespace ClassGraph.Declared

/-- A search for interfaces. -/
structure Search where
  /-- The interfaces that have been found. -/
  found : NameSet := ∅
  /-- The names that are still to be looked at, the next one first. -/
  pending : List String

namespace Search

/-- What a search from a name begins with. -/
def start (name : String) : Search := { pending := [name] }

/-- Looks at the next name. An interface that is new has been found with it, and what it extends is
to be looked at next, the last first. -/
def next (d : Declared) (s : Search) : Search :=
  match s.pending with
  | [] => s
  | name :: more =>
    match d.interface? name with
    | none => { s with pending := more }
    | some interface =>
      if s.found.contains name then { s with pending := more }
      else ⟨s.found.insert name, (supertypes interface).reverse ++ more⟩

/-- How many names the interfaces that have not been found extend in all. -/
def budget (d : Declared) (found : NameSet) : Nat :=
  ((d.toList.filter fun p => p.2.kind == .interface && !found.contains p.1).flatMap
    fun p => supertypes p.2).length

/-- How many names may still be looked at: those on the list, and those that may be put on it. -/
def remaining (d : Declared) (s : Search) : Nat := s.pending.length + budget d s.found

variable {d : Declared} {s : Search} {name : String}

/-! ## One step -/

/-- A search with an empty list has ended. -/
theorem next_of_nil (h : s.pending = []) : next d s = s := by
  unfold next
  rw [h]

/-- A name that is looked at is no interface or has been found before, and is passed over; or it is
an interface that is found now. -/
theorem next_cases {more : List String} (h : s.pending = name :: more) :
    ((d.IsInterface name → name ∈ s.found) ∧ next d s = { s with pending := more }) ∨
      ∃ c, d[name]? = some c ∧ c.kind = .interface ∧ name ∉ s.found ∧
        next d s = ⟨s.found.insert name, (supertypes c).reverse ++ more⟩ := by
  unfold next
  rw [h]
  dsimp only
  cases hinterface : d.interface? name with
  | none =>
    refine .inl ⟨fun hname => ?_, rfl⟩
    rw [← isSome_interface?, hinterface] at hname
    cases hname
  | some c =>
    have hc : d[name]? = some c ∧ c.kind = .interface := by
      simpa [interface?, Option.filter_eq_some_iff] using hinterface
    dsimp only
    split_ifs with hfound
    · exact .inl ⟨fun _ => Std.ExtTreeSet.mem_iff_contains.mpr hfound, rfl⟩
    · refine .inr ⟨c, hc.1, hc.2, ?_, rfl⟩
      rwa [Std.ExtTreeSet.mem_iff_contains]

/-! ## Termination -/

/-- What an interface extends is no longer to be put on the list when the interface is found. -/
theorem budget_insert {found : NameSet} {c : Classifier} (hc : d[name]? = some c)
    (hkind : c.kind = .interface) (hname : name ∉ found) :
    (supertypes c).length + budget d (found.insert name) = budget d found := by
  -- The other interfaces have other names, and are among those not found as before.
  obtain ⟨before, behind, hsplit, hother⟩ := Ordered.exists_toList_eq hc
  have hsame : ∀ l : List (String × Classifier), (∀ p ∈ l, p.1 ≠ name) →
      (l.filter fun p => p.2.kind == .interface && !(found.insert name).contains p.1) =
        l.filter fun p => p.2.kind == .interface && !found.contains p.1 := by
    intro l hl
    refine List.filter_congr fun p hp => ?_
    have hne : compare name p.1 ≠ .eq := fun heq =>
      hl p hp (Std.LawfulEqOrd.compare_eq_iff_eq.mp heq).symm
    rw [Std.ExtTreeSet.contains_insert, beq_eq_false_iff_ne.mpr hne, Bool.false_or]
  have hout : found.contains name = false := by
    rwa [← Bool.not_eq_true, ← Std.ExtTreeSet.mem_iff_contains]
  unfold budget
  rw [hsplit, List.filter_append, List.filter_append, List.filter_cons, List.filter_cons,
    hsame before fun p hp => hother p (List.mem_append_left _ hp),
    hsame behind fun p hp => hother p (List.mem_append_right _ hp)]
  simp [hkind, hout]
  omega

/-- With every name that is looked at, one less remains. -/
theorem remaining_next (h : s.pending ≠ []) : remaining d (next d s) + 1 = remaining d s := by
  obtain ⟨name, more, hpending⟩ := List.exists_cons_of_ne_nil h
  unfold remaining
  rw [hpending, List.length_cons]
  rcases next_cases (d := d) hpending with ⟨-, hnext⟩ | ⟨c, hc, hkind, hname, hnext⟩
  · rw [hnext]
    dsimp only
    omega
  · rw [hnext, ← budget_insert hc hkind hname]
    simp only [List.length_append, List.length_reverse]
    omega

/-- A search ends when as many names have been looked at as remained. -/
theorem pending_iterate_remaining (s : Search) : ((next d)^[remaining d s] s).pending = [] := by
  induction hn : remaining d s generalizing s with
  | zero =>
    by_contra hpending
    have hstep : remaining d (next d s) + 1 = remaining d s := remaining_next hpending
    omega
  | succ n ih =>
    by_cases hpending : s.pending = []
    · rwa [Function.iterate_fixed (next_of_nil hpending)]
    · rw [Function.iterate_succ_apply]
      have hstep : remaining d (next d s) + 1 = remaining d s := remaining_next hpending
      exact ih (next d s) (by omega)

/-! ## What is found -/

/-- What a search from a name keeps to. -/
structure Tracks (d : Declared) (name : String) (s : Search) : Prop where
  /-- What has been found is in the closure. -/
  found : ∀ x ∈ s.found, x ∈ d.interfaceClosure name
  /-- So are the interfaces among the names that are still to be looked at. -/
  pending : ∀ x ∈ s.pending, d.IsInterface x → x ∈ d.interfaceClosure name
  /-- The name itself has been found or is still to be looked at. -/
  start : d.IsInterface name → name ∈ s.found ∨ name ∈ s.pending
  /-- So is every interface above one that has been found. -/
  closed : ∀ x ∈ s.found, ∀ y, d.Refines x y → y ∈ s.found ∨ y ∈ s.pending

/-- A search that begins has found nothing, and keeps to what is asked of it. -/
theorem tracks_start (d : Declared) (name : String) : Tracks d name (start name) where
  found x hx := absurd hx Std.ExtTreeSet.not_mem_empty
  pending x hx hinterface := by
    obtain rfl := List.mem_singleton.mp hx
    exact mem_interfaceClosure.mpr ⟨hinterface, .refl⟩
  start _ := .inr List.mem_cons_self
  closed x hx := absurd hx Std.ExtTreeSet.not_mem_empty

/-- A name that leads to an interface one step above has that in its closure. -/
theorem mem_interfaceClosure_of_refines {x y : String} (hx : x ∈ d.interfaceClosure name)
    (hxy : d.Refines x y) : y ∈ d.interfaceClosure name := by
  obtain ⟨hname, hchain⟩ := mem_interfaceClosure.mp hx
  exact mem_interfaceClosure.mpr ⟨hname, hchain.tail hxy⟩

variable {first : String} {more : List String}

/-- A name is passed over that is no interface or has been found. -/
theorem Tracks.pass (h : Tracks d name s) (hpending : s.pending = first :: more)
    (hpassed : d.IsInterface first → first ∈ s.found) :
    Tracks d name { s with pending := more } := by
  have hkept : ∀ x, d.IsInterface x → x ∈ s.found ∨ x ∈ s.pending → x ∈ s.found ∨ x ∈ more := by
    rintro x hx (hfound | hlisted)
    · exact .inl hfound
    · rw [hpending] at hlisted
      rcases List.mem_cons.mp hlisted with rfl | hlisted
      · exact .inl (hpassed hx)
      · exact .inr hlisted
  exact {
    found := h.found
    pending := fun x hx => h.pending x (hpending ▸ List.mem_cons_of_mem _ hx)
    start := fun hname => hkept name hname (h.start hname)
    closed := fun x hx y hxy => hkept y hxy.2.1 (h.closed x hx y hxy) }

/-- An interface is found, and what it extends is put on the list. -/
theorem Tracks.find (h : Tracks d name s) (hpending : s.pending = first :: more) {c : Classifier}
    (hc : d[first]? = some c) (hkind : c.kind = .interface) :
    Tracks d name ⟨s.found.insert first, (supertypes c).reverse ++ more⟩ := by
  have hclosure : first ∈ d.interfaceClosure name :=
    h.pending first (hpending ▸ List.mem_cons_self) ⟨c, hc, hkind⟩
  have hkept : ∀ x, x ∈ s.found ∨ x ∈ s.pending →
      x ∈ s.found.insert first ∨ x ∈ (supertypes c).reverse ++ more := by
    rintro x (hfound | hlisted)
    · exact .inl ((Ordered.mem_set_insert _ _ _).mpr (.inr hfound))
    · rw [hpending] at hlisted
      rcases List.mem_cons.mp hlisted with rfl | hlisted
      · exact .inl ((Ordered.mem_set_insert _ _ _).mpr (.inl rfl))
      · exact .inr (List.mem_append_right _ hlisted)
  refine ⟨fun x hx => ?_, fun x hx hinterface => ?_, fun hname => hkept name (h.start hname),
    fun x hx y hxy => ?_⟩
  · rcases (Ordered.mem_set_insert _ _ _).mp hx with rfl | hx
    · exact hclosure
    · exact h.found x hx
  · rcases List.mem_append.mp hx with hx | hx
    · exact mem_interfaceClosure_of_refines hclosure
        ⟨⟨c, hc, hkind⟩, hinterface, c, hc, List.mem_reverse.mp hx⟩
    · exact h.pending x (hpending ▸ List.mem_cons_of_mem _ hx) hinterface
  · rcases (Ordered.mem_set_insert _ _ _).mp hx with rfl | hx
    · -- What the new interface extends is on the list now.
      obtain ⟨-, -, c', hc', hy⟩ := hxy
      obtain rfl := Option.some.inj (hc.symm.trans hc')
      exact .inr (List.mem_append_left _ (List.mem_reverse.mpr hy))
    · exact hkept y (h.closed x hx y hxy)

/-- A search keeps to it in each step. -/
theorem Tracks.next (h : Tracks d name s) : Tracks d name (next d s) := by
  cases hpending : s.pending with
  | nil => rwa [next_of_nil hpending]
  | cons first more =>
    rcases next_cases (d := d) hpending with ⟨hpassed, hnext⟩ | ⟨c, hc, hkind, -, hnext⟩
    · exact hnext ▸ h.pass hpending hpassed
    · exact hnext ▸ h.find hpending hc hkind

/-- A search keeps to it however many names are looked at. -/
theorem Tracks.iterate (h : Tracks d name s) (n : Nat) : Tracks d name ((Search.next d)^[n] s) := by
  induction n generalizing s with
  | zero => exact h
  | succ n ih => exact ih h.next

/-- A search that has ended has found the closure. -/
theorem Tracks.found_eq (h : Tracks d name s) (hend : s.pending = []) :
    s.found = d.interfaceClosure name := by
  have hclosed : ∀ x ∈ s.found, ∀ y, d.Refines x y → y ∈ s.found := fun x hx y hxy =>
    (h.closed x hx y hxy).resolve_right (by simp [hend])
  refine Std.ExtTreeSet.ext_mem fun x => ⟨h.found x, fun hx => ?_⟩
  obtain ⟨hname, hchain⟩ := mem_interfaceClosure.mp hx
  have hstart : name ∈ s.found := (h.start hname).resolve_right (by simp [hend])
  exact (mem_iff_of_closed hclosed x).mpr ⟨name, hstart, hchain⟩

end Search

/-! ## The main result -/

/-- A search from any name ends, after no more names than the interfaces extend in all and the name
itself, and what it has found is the closure of the name. The closure of a declared interface is
what steps from an interface to one that it extends lead to, whatever circles there are among them,
and that of any other name is empty. Closures of interfaces in a closure are parts of it. -/
theorem search_interfaceClosure (d : Declared) :
    (∀ name, let ended := (Search.next d)^[1 + Search.budget d ∅] (Search.start name)
      ended.pending = [] ∧ ended.found = d.interfaceClosure name) ∧
    (∀ name x, x ∈ d.interfaceClosure name ↔
      d.IsInterface name ∧ ReflTransGen d.Refines name x) ∧
    (∀ name, ¬ d.IsInterface name → d.interfaceClosure name = ∅) ∧
    ∀ name above, above ∈ d.interfaceClosure name →
      ∀ x ∈ d.interfaceClosure above, x ∈ d.interfaceClosure name := by
  refine ⟨fun name => ?_, fun name x => mem_interfaceClosure, fun name hname => ?_,
    fun name above habove x hx => ?_⟩
  · have hend := Search.pending_iterate_remaining (d := d) (Search.start name)
    exact ⟨hend, ((Search.tracks_start d name).iterate _).found_eq hend⟩
  · refine Std.ExtTreeSet.ext_mem fun x => iff_of_false (fun hx => ?_) Std.ExtTreeSet.not_mem_empty
    exact hname (mem_interfaceClosure.mp hx).1
  · obtain ⟨hname, hchain⟩ := mem_interfaceClosure.mp habove
    exact mem_interfaceClosure.mpr ⟨hname, hchain.trans (mem_interfaceClosure.mp hx).2⟩

/-- Singers and performers extend each other. Both extend artists, and these themselves, a person
that is not declared, and a class. -/
def troupe : Declared :=
  let interface (name : String) (above : List String) : Classifier :=
    { name, kind := .interface, interfaces := above }
  .ofList [interface "Singer" ["Performer", "Artist"], interface "Performer" ["Artist", "Singer"],
    interface "Artist" ["Artist", "Person", "Manager"], { name := "Manager", kind := .plain }]

/-- A search from the singer ends with the three interfaces, which include what the artist leads
to. -/
theorem search_troupe :
    let ended := (Search.next troupe)^[1 + Search.budget troupe ∅] (Search.start "Singer")
    ended.pending = [] ∧ ended.found.toList = ["Artist", "Performer", "Singer"] ∧
      "Artist" ∈ troupe.interfaceClosure "Singer" ∧
      (∀ x ∈ troupe.interfaceClosure "Artist", x ∈ troupe.interfaceClosure "Singer") ∧
      troupe.interfaceClosure "Manager" = ∅ := by
  intro ended
  obtain ⟨hsearch, -, hempty, hparts⟩ := search_interfaceClosure troupe
  obtain ⟨hend, hfound⟩ := hsearch "Singer"
  have hclosure : (troupe.interfaceClosure "Singer").toList =
      ["Artist", "Performer", "Singer"] := by decide +kernel
  have hartist : "Artist" ∈ troupe.interfaceClosure "Singer" := by
    rw [← Std.ExtTreeSet.mem_toList, hclosure]
    decide
  have hmanager : ¬ troupe.IsInterface "Manager" := by
    rw [← isSome_interface?]
    decide +kernel
  exact ⟨hend, hfound ▸ hclosure, hartist, hparts _ _ hartist, hempty _ hmanager⟩

end ClassGraph.Declared
