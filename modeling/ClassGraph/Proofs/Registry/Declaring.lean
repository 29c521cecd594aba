import ClassGraph.Proofs.Registry.Subtyping

/-!
# Declaring roles and types

Roles and types are declared one after the other, in any order, and one is refused when its name has
been used before for another of its sort. So a list of them is accepted exactly when it uses no name
twice (`exists_ofItems_iff`), and what is then declared is what the list says (`records_ofItems`):
its order does not count.
-/

namespace ClassGraph.Declarations

/-- A role or a type that is to be declared. -/
inductive Item where
  /-- A role, with the operations that it requires. -/
  | role (tag : String) (required : List Operation)
  /-- A type. -/
  | type (decl : TypeDecl)

/-- The name of an item. A role and a type may share it. -/
def Item.key : Item → String ⊕ String
  | .role tag _ => .inl tag
  | .type decl => .inr decl.tag

/-- Adds an item. -/
def declare (d : Declarations) : Item → Except DeclarationError Declarations
  | .role tag required => d.declareRole tag required
  | .type decl => d.declareType decl

/-- Adds items one after the other, up to one that is refused. -/
def declareEach (d : Declarations) (items : List Item) : Except DeclarationError Declarations :=
  items.foldlM declare d

/-- The declarations of a list of items. -/
def ofItems (items : List Item) : Except DeclarationError Declarations :=
  ({} : Declarations).declareEach items

/-- What is declared is what some items say. -/
structure Records (d : Declarations) (items : List Item) : Prop where
  /-- The types are those of the items, each under its name. -/
  types : ∀ (tag : String) (decl : TypeDecl),
    d.types[tag]? = some decl ↔ .type decl ∈ items ∧ decl.tag = tag
  /-- The roles are those of the items, each under its name. -/
  roles : ∀ (tag : String) (role : Role),
    d.roles[tag]? = some role ↔ ∃ required, .role tag required ∈ items ∧
      role = ⟨tag, .ofList required⟩

variable {d d' : Declarations} {done items : List Item} {item : Item}

/-- Nothing is declared where no item says so. -/
theorem records_empty : ({} : Declarations).Records [] where
  types := by simp
  roles := by simp

/-- A type is declared when an item of this name is. -/
theorem Records.mem_types_iff (h : d.Records items) {tag : String} :
    tag ∈ d.types ↔ .inr tag ∈ items.map Item.key := by
  simp only [Ordered.mem_iff_exists, h.types, List.mem_map]
  constructor
  · rintro ⟨decl, hdecl, rfl⟩
    exact ⟨_, hdecl, rfl⟩
  · rintro ⟨_ | decl, hdecl, ⟨⟩⟩
    exact ⟨decl, hdecl, rfl⟩

/-- A role is declared when an item of this name is. -/
theorem Records.mem_roles_iff (h : d.Records items) {tag : String} :
    tag ∈ d.roles ↔ .inl tag ∈ items.map Item.key := by
  simp only [Ordered.mem_iff_exists, h.roles, List.mem_map]
  constructor
  · rintro ⟨-, required, hrole, -⟩
    exact ⟨_, hrole, rfl⟩
  · rintro ⟨⟨_, required⟩ | _, hrole, ⟨⟩⟩
    exact ⟨_, required, hrole, rfl⟩

/-- Every type is declared under its own name. -/
theorem Records.tagged (h : d.Records items) : d.Tagged :=
  fun {tag decl} hdecl => ((h.types tag decl).mp hdecl).2

/-- Some items say what is declared in one way only. -/
theorem Records.unique (h : d.Records items) (h' : d'.Records items) : d = d' := by
  have htypes : d.types = d'.types := Std.ExtTreeMap.ext_getElem? fun tag =>
    Option.ext fun decl => by rw [h.types, h'.types]
  have hroles : d.roles = d'.roles := Std.ExtTreeMap.ext_getElem? fun tag =>
    Option.ext fun role => by rw [h.roles, h'.roles]
  cases d
  cases d'
  simp_all

/-! ## One item -/

/-- An item is accepted when its name is new. -/
theorem Records.exists_declare_iff (h : d.Records done) :
    (∃ d', d.declare item = .ok d') ↔ item.key ∉ done.map Item.key := by
  cases item with
  | role tag required =>
    rw [Item.key, ← h.mem_roles_iff]
    by_cases htag : tag ∈ d.roles <;> simp [declare, declareRole, htag]
  | type decl =>
    rw [Item.key, ← h.mem_types_iff]
    by_cases htag : decl.tag ∈ d.types <;> simp [declare, declareType, htag]

/-- An item that is accepted is declared along with those before. -/
theorem Records.of_declare (h : d.Records done) (hd : d.declare item = .ok d') :
    d'.Records (done ++ [item]) := by
  have hnew : item.key ∉ done.map Item.key := h.exists_declare_iff.mp ⟨d', hd⟩
  cases item with
  | role tag required =>
    have hfree : tag ∉ d.roles := fun htag => hnew (h.mem_roles_iff.mp htag)
    obtain rfl : { d with roles := d.roles.insert tag ⟨tag, .ofList required⟩ } = d' := by
      simpa [declare, declareRole, hfree] using hd
    refine ⟨fun other decl => by simp [h.types], fun other role => ?_⟩
    rw [Ordered.getElem?_insert]
    by_cases hother : other = tag
    · -- No item before has this name.
      have hnone : ∀ required', Item.role tag required' ∉ done :=
        fun required' hmem => hnew (List.mem_map.mpr ⟨_, hmem, rfl⟩)
      simp [hother, hnone, eq_comm]
    · simp [hother, h.roles]
  | type decl =>
    have hfree : decl.tag ∉ d.types := fun htag => hnew (h.mem_types_iff.mp htag)
    obtain rfl : { d with types := d.types.insert decl.tag decl } = d' := by
      simpa [declare, declareType, hfree] using hd
    refine ⟨fun other decl' => ?_, fun other role => by simp [h.roles]⟩
    rw [Ordered.getElem?_insert, List.mem_append, List.mem_singleton, Item.type.injEq]
    split_ifs with hother
    · have hnone : Item.type decl' ∈ done → decl'.tag ≠ decl.tag :=
        fun hmem htag => hnew (List.mem_map.mpr ⟨_, hmem, congrArg Sum.inr htag⟩)
      rw [hother, Option.some_inj, eq_comm]
      constructor
      · exact fun hdecl => ⟨.inr hdecl, congrArg TypeDecl.tag hdecl⟩
      · exact fun ⟨hmem, htag⟩ => hmem.resolve_left fun hold => hnone hold htag
    · rw [h.types, or_and_right, or_iff_left]
      rintro ⟨rfl, rfl⟩
      exact hother rfl

/-! ## Several items -/

/-- A first item is declared, and then the others. -/
theorem declareEach_cons (d : Declarations) (item : Item) (items : List Item) :
    d.declareEach (item :: items) = d.declare item >>= fun d' => d'.declareEach items := rfl

/-- Items that are accepted are declared along with those before. -/
theorem Records.of_declareEach (h : d.Records done) (hd : d.declareEach items = .ok d') :
    d'.Records (done ++ items) := by
  induction items generalizing d done with
  | nil =>
    obtain rfl : d = d' := Except.ok.inj hd
    rwa [List.append_nil]
  | cons item items ih =>
    rw [declareEach_cons] at hd
    obtain ⟨d₁, hfirst, hlater⟩ := Outcome.bind_eq_ok_iff.mp hd
    rw [List.append_cons]
    exact ih (h.of_declare hfirst) hlater

/-- Items are accepted when their names are new and different. -/
theorem Records.exists_declareEach_iff (h : d.Records done) (hdone : (done.map Item.key).Nodup) :
    (∃ d', d.declareEach items = .ok d') ↔ ((done ++ items).map Item.key).Nodup := by
  induction items generalizing d done with
  | nil =>
    rw [List.append_nil]
    exact iff_of_true ⟨d, rfl⟩ hdone
  | cons item items ih =>
    simp only [declareEach_cons, Outcome.bind_eq_ok_iff]
    by_cases hnew : item.key ∈ done.map Item.key
    · -- A name that has been used is refused, and stands twice in the list.
      refine iff_of_false ?_ ?_
      · rintro ⟨_, d₁, hfirst, -⟩
        exact h.exists_declare_iff.mp ⟨d₁, hfirst⟩ hnew
      · rw [List.map_append, List.map_cons, List.nodup_middle, List.nodup_cons]
        exact fun hnodup => hnodup.1 (List.mem_append_left _ hnew)
    · obtain ⟨d₁, hfirst⟩ := h.exists_declare_iff.mpr hnew
      have hdone' : ((done ++ [item]).map Item.key).Nodup := by
        rw [List.map_append, List.map_singleton, List.nodup_middle, List.append_nil]
        exact List.nodup_cons.mpr ⟨hnew, hdone⟩
      rw [List.append_cons, ← ih (h.of_declare hfirst) hdone']
      simp [hfirst]

/-- Items with different names are accepted, and no others. -/
theorem exists_ofItems_iff : (∃ d, ofItems items = .ok d) ↔ (items.map Item.key).Nodup :=
  records_empty.exists_declareEach_iff List.nodup_nil

/-- The declarations of some items are what these say. -/
theorem records_ofItems (h : ofItems items = .ok d) : d.Records items :=
  records_empty.of_declareEach h

end ClassGraph.Declarations
