import Mathlib.Logic.Relation
import ClassGraph.Instantiation.Declared
import ClassGraph.Proofs.Ordered

/-!
# Interfaces and superclasses

Between declared interfaces `Refines` is one step from an interface to one that it extends, and
`Super` is one step from a class to its declared superclass. The rounds of `interfaceClosure` and
the walk of `lineage` are bounded by the number of declarations, and that is enough: they find
exactly what chains of such steps lead to, also where the steps go round in a circle
(`mem_interfaceClosure`, `mem_lineage`). So the roles of a class and the operations that a role
requires are those that the declarations say (`mem_rolesOf`, `mem_required_role`).
-/

open Relation

namespace ClassGraph.Declared

variable {d : Declared}

/-! ## Interfaces -/

/-- An interface of this name is declared. -/
def IsInterface (d : Declared) (name : String) : Prop :=
  ∃ c, d[name]? = some c ∧ c.kind = .interface

/-- A declared interface names another among its supertypes. -/
def Refines (d : Declared) (name above : String) : Prop :=
  d.IsInterface name ∧ d.IsInterface above ∧ ∃ c, d[name]? = some c ∧ above ∈ supertypes c

/-- A name finds an interface when one is declared under it. -/
theorem isSome_interface? {name : String} :
    (d.interface? name).isSome = true ↔ d.IsInterface name := by
  rw [interface?, Option.isSome_iff_exists, IsInterface]
  simp only [Option.filter_eq_some_iff, beq_iff_eq]

/-- The interfaces among some names are those under which one is declared. -/
theorem mem_interfacesAmong {names : List String} {name : String} :
    name ∈ d.interfacesAmong names ↔ name ∈ names ∧ d.IsInterface name := by
  rw [interfacesAmong, Ordered.mem_set_ofList, List.mem_filter, isSome_interface?]

/-- Names that are extended once have those that they refine added. -/
theorem mem_extendOnce {names : NameSet} (hnames : ∀ x ∈ names, d.IsInterface x) {x : String} :
    x ∈ d.extendOnce names ↔ x ∈ names ∨ ∃ y ∈ names, d.Refines y x := by
  rw [extendOnce, Std.ExtTreeSet.mem_union_iff, mem_interfacesAmong, List.mem_flatMap]
  refine or_congr_right ⟨?_, ?_⟩
  · rintro ⟨⟨y, hy, hx⟩, hinterface⟩
    rw [Std.ExtTreeSet.mem_toList] at hy
    obtain ⟨c, hc, -⟩ := hnames y hy
    rw [hc] at hx
    exact ⟨y, hy, hnames y hy, hinterface, c, hc, hx⟩
  · rintro ⟨y, hy, -, hinterface, c, hc, hx⟩
    refine ⟨⟨y, Std.ExtTreeSet.mem_toList.mpr hy, ?_⟩, hinterface⟩
    rw [hc]
    exact hx

/-- A set of interfaces that leads only into itself has all that chains lead to from it. -/
theorem mem_iff_of_closed {names : NameSet}
    (hclosed : ∀ y ∈ names, ∀ z, d.Refines y z → z ∈ names) (x : String) :
    x ∈ names ↔ ∃ y ∈ names, ReflTransGen d.Refines y x := by
  refine ⟨fun hx => ⟨x, hx, .refl⟩, ?_⟩
  rintro ⟨y, hy, hyx⟩
  induction hyx with
  | refl => exact hy
  | tail _ hstep ih => exact hclosed _ ih _ hstep

/-- Names of interfaces that are extended once are names of interfaces. -/
theorem isInterface_of_mem_extendOnce {names : NameSet} (hnames : ∀ x ∈ names, d.IsInterface x) :
    ∀ x ∈ d.extendOnce names, d.IsInterface x := by
  intro x hx
  rcases (mem_extendOnce hnames).mp hx with hx | ⟨y, -, hy⟩
  · exact hnames x hx
  · exact hy.2.1

/-- A round leaves what chains lead to as it is. -/
theorem exists_chain_extendOnce_iff {names : NameSet} (hnames : ∀ x ∈ names, d.IsInterface x)
    {x : String} : (∃ y ∈ d.extendOnce names, ReflTransGen d.Refines y x) ↔
      ∃ y ∈ names, ReflTransGen d.Refines y x := by
  constructor
  · rintro ⟨y, hy, hyx⟩
    rcases (mem_extendOnce hnames).mp hy with hy | ⟨z, hz, hzy⟩
    · exact ⟨y, hy, hyx⟩
    · exact ⟨z, hz, .head hzy hyx⟩
  · rintro ⟨y, hy, hyx⟩
    exact ⟨y, (mem_extendOnce hnames).mpr (.inl hy), hyx⟩

/-- A set of interfaces that is as large as the declarations leads only into itself. -/
theorem closed_of_size_le {names : NameSet} (hnames : ∀ x ∈ names, d.IsInterface x)
    (hsize : d.size ≤ names.size) : ∀ y ∈ names, ∀ z, d.Refines y z → z ∈ names := by
  have hall : ∀ k ∈ Ordered.keySet d, k ∈ names := by
    refine Ordered.subset_of_size_le (fun k hk => ?_) ((Ordered.size_keySet d).trans_le hsize)
    obtain ⟨c, hc, -⟩ := hnames k hk
    exact (Ordered.mem_keySet d k).mpr (Ordered.mem_of_getElem? hc)
  rintro y - z ⟨-, ⟨c, hc, -⟩, -⟩
  exact hall z ((Ordered.mem_keySet d z).mpr (Ordered.mem_of_getElem? hc))

/-- Rounds that could take in every declaration take in all that chains lead to. -/
theorem mem_extendWithin (rounds : Nat) :
    ∀ {names : NameSet}, (∀ x ∈ names, d.IsInterface x) → d.size ≤ names.size + rounds →
      ∀ x, x ∈ d.extendWithin rounds names ↔ ∃ y ∈ names, ReflTransGen d.Refines y x := by
  induction rounds with
  | zero =>
    intro names hnames hsize x
    exact mem_iff_of_closed (closed_of_size_le hnames hsize) x
  | succ rounds ih =>
    intro names hnames hsize x
    have hsubset : ∀ y ∈ names, y ∈ d.extendOnce names :=
      fun y hy => (mem_extendOnce hnames).mpr (.inl hy)
    unfold extendWithin
    dsimp only
    split_ifs with hsame
    · -- The round took in nothing, so that the set leads only into itself.
      refine mem_iff_of_closed (fun y hy z hz => ?_) x
      exact Ordered.subset_of_size_le hsubset hsame.le z
        ((mem_extendOnce hnames).mpr (.inr ⟨y, hy, hz⟩))
    · have hgrown : names.size ≤ (d.extendOnce names).size := Ordered.size_le_of_subset hsubset
      have hsize' : d.size ≤ (d.extendOnce names).size + rounds := by omega
      rw [ih (isInterface_of_mem_extendOnce hnames) hsize', exists_chain_extendOnce_iff hnames]

/-- The closure of a declared interface is what chains lead to from it, and that of any other name
is empty. -/
theorem mem_interfaceClosure {name x : String} :
    x ∈ d.interfaceClosure name ↔ d.IsInterface name ∧ ReflTransGen d.Refines name x := by
  rw [interfaceClosure, mem_extendWithin]
  · simp only [mem_interfacesAmong, List.mem_singleton, and_assoc, exists_eq_left]
  · exact fun y hy => (mem_interfacesAmong.mp hy).2
  · omega

/-! ## Superclasses -/

/-- A class names another as its superclass, and that is declared. -/
def Super (d : Declared) (c above : Classifier) : Prop :=
  ∃ name, c.superclass = some name ∧ d[name]? = some above

/-- A chain of steps either comes back to its start or leaves it for good with the first step. -/
theorem leaves_of_reflTransGen {α : Type} {r : α → α → Prop} {x y : α} (h : ReflTransGen r x y) :
    y = x ∨ ∃ z, r x z ∧ z ≠ x ∧ ReflTransGen (fun a b => r a b ∧ b ≠ x) z y := by
  induction h with
  | refl => exact .inl rfl
  | @tail a b _ hab ih =>
    -- A step back to the start makes all steps before it superfluous.
    by_cases hb : b = x
    · exact .inl hb
    · rcases ih with rfl | ⟨z, hxz, hz, hza⟩
      · exact .inr ⟨b, hab, hb, .refl⟩
      · exact .inr ⟨z, hxz, hz, hza.tail ⟨hab, hb⟩⟩

/-- The walk upwards goes from a class to its declared superclass. -/
theorem lineageWithin_succ_of_super {c above : Classifier} (h : d.Super c above) (limit : Nat) :
    d.lineageWithin (limit + 1) c = c :: d.lineageWithin limit above := by
  obtain ⟨name, hname, habove⟩ := h
  have hbind : c.superclass.bind (d[·]?) = some above := by
    rw [hname, Option.bind_some, habove]
  change c :: (c.superclass.bind (d[·]?)).elim [] (d.lineageWithin limit) = _
  rw [hbind, Option.elim_some]

/-- The walk upwards meets only what chains lead to. -/
theorem reflTransGen_of_mem_lineageWithin {x : Classifier} (limit : Nat) :
    ∀ {c : Classifier}, x ∈ d.lineageWithin limit c → ReflTransGen d.Super c x := by
  induction limit with
  | zero => exact fun hx => absurd hx List.not_mem_nil
  | succ limit ih =>
    intro c hx
    unfold lineageWithin at hx
    rcases List.mem_cons.mp hx with rfl | hx
    · exact .refl
    · cases habove : c.superclass.bind (d[·]?) with
      | none => simp [habove] at hx
      | some above =>
        simp only [habove, Option.elim_some] at hx
        exact .head (Option.bind_eq_some_iff.mp habove) (ih hx)

/-- A walk with a step for each of some classes meets all that chains through these lead to. -/
theorem mem_lineageWithin_of_reflTransGen {x : Classifier} (limit : Nat) :
    ∀ {c : Classifier} {available : Finset Classifier}, available.card ≤ limit → c ∈ available →
      ReflTransGen (fun a b => d.Super a b ∧ b ∈ available) c x → x ∈ d.lineageWithin limit c := by
  induction limit with
  | zero =>
    intro c available hcard hc
    rw [Finset.card_eq_zero.mp (Nat.le_zero.mp hcard)] at hc
    exact absurd hc (Finset.notMem_empty c)
  | succ limit ih =>
    intro c available hcard hc hchain
    rcases leaves_of_reflTransGen hchain with rfl | ⟨above, ⟨hsuper, habove⟩, hne, hchain⟩
    · exact List.mem_cons_self
    · rw [lineageWithin_succ_of_super hsuper]
      -- From there the chain leads through the classes other than its start.
      have hcard' : (available.erase c).card ≤ limit := by
        rw [Finset.card_erase_of_mem hc]
        omega
      refine List.mem_cons_of_mem _ (ih hcard' (Finset.mem_erase.mpr ⟨hne, habove⟩) ?_)
      refine ReflTransGen.mono (fun a b hab => ⟨hab.1.1, ?_⟩) _ _ hchain
      exact Finset.mem_erase.mpr ⟨hab.2, hab.1.2⟩

/-- Every declared class. -/
def declared (d : Declared) : Finset Classifier := d.classes.toFinset

/-- The declared classes are those under some name. -/
theorem mem_declared {c : Classifier} : c ∈ d.declared ↔ ∃ name : String, d[name]? = some c := by
  simp [declared, classes]

/-- There are no more declared classes than names. -/
theorem card_declared_le (d : Declared) : d.declared.card ≤ d.size := by
  refine (List.toFinset_card_le _).trans ?_
  rw [classes, List.length_map, Std.ExtTreeMap.length_toList]

/-- The lineage of a declared class is what chains of superclasses lead to from it. -/
theorem mem_lineage {c : Classifier} {name : String} (hc : d[name]? = some c) {x : Classifier} :
    x ∈ d.lineage c ↔ ReflTransGen d.Super c x := by
  refine ⟨reflTransGen_of_mem_lineageWithin _, fun hchain => ?_⟩
  refine mem_lineageWithin_of_reflTransGen d.size d.card_declared_le (mem_declared.mpr ⟨_, hc⟩) ?_
  refine ReflTransGen.mono (fun a b hab => ⟨hab, ?_⟩) _ _ hchain
  obtain ⟨name, -, hb⟩ := hab
  exact mem_declared.mpr ⟨name, hb⟩

/-! ## Roles -/

/-- A class implements a role: it or a class above it names an interface that is the role or leads
to it. -/
def Implements (d : Declared) (c : Classifier) (role : String) : Prop :=
  ∃ above, ReflTransGen d.Super c above ∧
    ∃ first ∈ above.interfaces, d.IsInterface first ∧ ReflTransGen d.Refines first role

/-- A role requires an operation: its interface or one that it leads to has an abstract method of
this name and number of parameters. -/
def Requires (d : Declared) (role : String) (op : Operation) : Prop :=
  ∃ name, ReflTransGen d.Refines role name ∧ ∃ interface, d[name]? = some interface ∧
    ∃ m ∈ interface.methods, m.isAbstract = true ∧ operation m = op

/-- The roles of a declared class are those that it implements. -/
theorem mem_rolesOf {c : Classifier} {name : String} (hc : d[name]? = some c) {role : String} :
    role ∈ d.rolesOf c ↔ d.Implements c role := by
  rw [rolesOf, Ordered.mem_foldl_union, or_iff_right Std.ExtTreeSet.not_mem_empty]
  simp only [List.mem_flatMap, mem_lineage hc, mem_interfaceClosure, Implements]
  constructor
  · rintro ⟨first, ⟨above, habove, hfirst⟩, hrole⟩
    exact ⟨above, habove, first, hfirst, hrole⟩
  · rintro ⟨above, habove, first, hfirst, hrole⟩
    exact ⟨first, ⟨above, habove, hfirst⟩, hrole⟩

/-- What a class implements is a declared interface. -/
theorem Implements.isInterface {c : Classifier} {role : String} (h : d.Implements c role) :
    d.IsInterface role := by
  obtain ⟨-, -, first, -, hfirst, hchain⟩ := h
  rcases hchain.cases_tail with rfl | ⟨_, -, hstep⟩
  · exact hfirst
  · exact hstep.2.1

/-- The role of a declared interface has the operations that it requires. -/
theorem mem_required_role {interface : Classifier} (h : d.IsInterface interface.name)
    {op : Operation} : op ∈ (d.role interface).required ↔ d.Requires interface.name op := by
  rw [role, Ordered.mem_set_ofList, List.mem_map, Requires]
  simp only [List.mem_filter, List.mem_flatMap, Std.ExtTreeSet.mem_toList, mem_interfaceClosure,
    and_iff_right h]
  constructor
  · rintro ⟨m, ⟨⟨name, hname, hm⟩, habstract⟩, hop⟩
    cases hinterface : d[name]? with
    | none => simp [hinterface] at hm
    | some interface' =>
      rw [hinterface] at hm
      exact ⟨name, hname, interface', hinterface, m, hm, habstract, hop⟩
  · rintro ⟨name, hname, interface', hinterface, m, hm, habstract, hop⟩
    refine ⟨m, ⟨⟨name, hname, ?_⟩, habstract⟩, hop⟩
    rw [hinterface]
    exact hm

end ClassGraph.Declared
