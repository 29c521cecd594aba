import ClassGraph.Proofs.Instantiation.Declared
import ClassGraph.Proofs.Source.Component
import ClassGraph.Proofs.Source.Inference

/-!
# Records

The members of a declaration add the same fields and methods whatever is there already (`Appends`),
so that the model of a record is that of its body with the fields of the components in front of the
fields, and their accessors behind the methods, as far as the body does not declare them
(`members_classifier`). Each component of fixed arity has exactly one method without parameters,
its own or that of the body. A component of variable arity has neither a field nor an accessor.
`classifier_components` says all of this.
-/

namespace ClassGraph.Source.Java

open TokenTree

namespace Component

/-- The type of a component in a scope. -/
def reference (scope : TypeScope) (c : Component) : TypeRef :=
  TypeRef.resolve scope (text c.type ++ text c.dimensions)

/-- The field of a component: private, and not static. -/
def field (scope : TypeScope) (c : Component) : Field where
  name := c.name
  typeName := (c.reference scope).display
  visibility := .toClass

/-- The accessor of a component: public, not abstract, and without parameters. -/
def accessor (scope : TypeScope) (c : Component) : Method where
  name := c.name
  returnType := (c.reference scope).display
  parameters := []
  visibility := .toAll

end Component

/-- The methods of a name without parameters. -/
def parameterless (c : Classifier) (name : String) : List Method :=
  c.methods.filter fun m => m.name == name && m.parameters.isEmpty

variable {t : TokenTree} {ts : List TokenTree} {c : Component} {cs : List Component}

/-! ## What a declaration adds -/

/-- A step on class models adds the same fields and methods at the ends, whatever is there. -/
def Appends (step : Classifier → Classifier) (fields : List Field) (methods : List Method) : Prop :=
  ∀ c, (step c).fields = c.fields ++ fields ∧ (step c).methods = c.methods ++ methods

variable {step step' : Classifier → Classifier} {fields fields' : List Field}
  {methods methods' : List Method}

/-- Two steps add what each of them adds. -/
theorem Appends.comp (h : Appends step fields methods) (h' : Appends step' fields' methods') :
    Appends (fun c => step' (step c)) (fields ++ fields') (methods ++ methods') := by
  intro c
  rw [(h' _).1, (h' _).2, (h c).1, (h c).2, List.append_assoc, List.append_assoc]
  exact ⟨rfl, rfl⟩

/-- No step adds nothing. -/
theorem appends_id : Appends (fun c => c) [] [] := fun c => by simp

/-- To relate a field adds no member. -/
theorem appends_relateField (field : String) (type : TypeRef) (owned : Bool) :
    Appends (·.relateField field type owned) [] [] := by
  intro c
  obtain ⟨relations, hrelated⟩ := c.exists_relateField field type owned
  simp [hrelated]

/-- To relate what a method uses adds no member. -/
theorem appends_relateUsage (method : String) (type : TypeRef) :
    Appends (·.relateUsage method type) [] [] := by
  intro c
  obtain ⟨relations, hrelated⟩ := c.exists_relateUsage method type
  simp [hrelated]

/-- To relate all that a method uses adds no member. -/
theorem appends_foldl_relateUsage (method : String) (used : List (String × TypeRef)) :
    Appends (fun c => used.foldl (fun c p => c.relateUsage method p.2) c) [] [] := by
  intro c
  obtain ⟨relations, hrelated⟩ := c.exists_foldl_relateUsage method used
  simp [hrelated]

/-- To add a field adds it and no method. -/
theorem appends_addField (f : Field) : Appends (·.addField f) [f] [] := by
  intro c
  simp [Classifier.addField]

/-- To add a method adds it and no field. -/
theorem appends_addMethod (m : Method) : Appends (·.addMethod m) [] [m] := by
  intro c
  simp [Classifier.addMethod]

/-- What steps add one after another. -/
theorem appends_foldl {α : Type} (step : Classifier → α → Classifier)
    (h : ∀ a, ∃ fields methods, Appends (fun c => step c a) fields methods) (as : List α) :
    ∃ fields methods, Appends (fun c => as.foldl step c) fields methods := by
  induction as with
  | nil => exact ⟨[], [], appends_id⟩
  | cons a as ih =>
    obtain ⟨fields, methods, ha⟩ := h a
    obtain ⟨fields', methods', has⟩ := ih
    exact ⟨_, _, ha.comp has⟩

/-- A variable adds the same members to every class. -/
theorem appends_addVariable (scope : TypeScope) (inInterface : Bool)
    (modifiers type : List TokenTree) (v : Declarator) :
    ∃ fields methods,
      Appends (fun c => addVariable scope inInterface modifiers type c v) fields methods :=
  ⟨_, _, (appends_relateField v.name _ _).comp (appends_addField _)⟩

/-- A member adds the same fields and methods to every class. -/
theorem appends_addMember (scope : TypeScope) (inInterface : Bool) (m : Member) :
    ∃ fields methods, Appends (fun c => addMember scope inInterface c m) fields methods := by
  cases m with
  | field modifiers type declarators =>
    exact appends_foldl _ (appends_addVariable scope inInterface modifiers type) declarators
  | method modifiers typeParameters type name parameters hasBody =>
    exact ⟨_, _, ((appends_relateUsage name _).comp (appends_foldl_relateUsage name _)).comp
      (appends_addMethod _)⟩
  | other => exact ⟨[], [], appends_id⟩

/-- A model with the constants and members of a declaration. -/
def withMembers (settings : Extraction) (d : Declaration) (c : Classifier) : Classifier :=
  let (constants, body) := if d.kind = .enum then enumParts d.body else ([], d.body)
  (members (d.kind == .annotationType) body).foldl
    (addMember (typeScope settings d.scope) (d.kind == .interface))
    (constants.foldl Classifier.addConstant c)

/-- The members of a declaration add the same fields and methods to every class. -/
theorem appends_withMembers (settings : Extraction) (d : Declaration) :
    ∃ fields methods, Appends (withMembers settings d) fields methods := by
  obtain ⟨fields, methods, hconstants⟩ := appends_foldl Classifier.addConstant
    (fun name => ⟨_, _, appends_addField _⟩)
    (if d.kind = .enum then enumParts d.body else ([], d.body)).1
  obtain ⟨fields', methods', hmembers⟩ := appends_foldl _
    (appends_addMember (typeScope settings d.scope) (d.kind == .interface))
    (members (d.kind == .annotationType)
      (if d.kind = .enum then enumParts d.body else ([], d.body)).2)
  exact ⟨_, _, hconstants.comp hmembers⟩

/-- The model of a declaration without its members. -/
def header (package : Option String) (d : Declaration) : Classifier where
  name := d.name
  kind := d.kind
  visibility := .ofModifiers (text d.modifiers)
  isAbstract := hasModifier (text d.modifiers) "abstract"
  package
  superclass := superclass? d.superclass
  interfaces := supertypes d.interfaces

/-- The class of a declaration has its components first, then its members, and then those accessors
that it does not declare itself. -/
theorem classifier_eq (settings : Extraction) (package : Option String) (d : Declaration) :
    classifier settings package d =
      let made := (recordComponents d.components).foldl
        (addComponent (typeScope settings d.scope)) (header package d, [])
      let complete := withMembers settings d made.1
      { complete with
        methods := complete.methods ++ made.2.filter fun a =>
          !complete.methods.any fun m => m.name == a.name && m.parameters.isEmpty } := rfl

/-! ## Records -/

variable {settings : Extraction} {package : Option String} {d : Declaration}

/-- One component more is a field more and an accessor more. -/
theorem addComponent_parameter (scope : TypeScope) (made : Classifier × List Method)
    (c : Component) :
    let next := addComponent scope made c.parameter
    next.1.fields = made.1.fields ++ [c.field scope] ∧ next.1.methods = made.1.methods ∧
      next.2 = made.2 ++ [c.accessor scope] := by
  obtain ⟨hfields, hmethods⟩ := ((appends_relateField c.name (c.reference scope) false).comp
    (appends_addField (c.field scope))) made.1
  exact ⟨hfields, hmethods.trans (by simp), rfl⟩

/-- Components add a field and an accessor each, and no method. -/
theorem foldl_addComponent (scope : TypeScope) (cs : List Component)
    (made : Classifier × List Method) :
    let all := (cs.map Component.parameter).foldl (addComponent scope) made
    all.1.fields = made.1.fields ++ cs.map (Component.field scope) ∧
      all.1.methods = made.1.methods ∧ all.2 = made.2 ++ cs.map (Component.accessor scope) := by
  induction cs generalizing made with
  | nil => simp
  | cons c cs ih =>
    obtain ⟨hfields, hmethods, haccessors⟩ := addComponent_parameter scope made c
    obtain ⟨hfields', hmethods', haccessors'⟩ := ih (addComponent scope made c.parameter)
    rw [hfields] at hfields'
    rw [hmethods] at hmethods'
    rw [haccessors] at haccessors'
    rw [List.map_cons, List.foldl_cons]
    exact ⟨by simpa using hfields', hmethods', by simpa using haccessors'⟩

/-- The fields and methods of a declaration with components: those of the components around those
of the members, which are the same for all components. -/
theorem exists_members (settings : Extraction) (package : Option String) (d : Declaration) :
    ∃ fields methods, ∀ (trees : List TokenTree) (cs : List Component),
      recordComponents trees = cs.map Component.parameter →
        let r := classifier settings package { d with components := trees }
        r.fields = cs.map (Component.field (typeScope settings d.scope)) ++ fields ∧
        r.methods = methods ++ (cs.map (Component.accessor (typeScope settings d.scope))).filter
          fun a => !methods.any fun m => m.name == a.name && m.parameters.isEmpty := by
  obtain ⟨fields, methods, happends⟩ := appends_withMembers settings d
  refine ⟨fields, methods, fun trees cs hcomponents => ?_⟩
  obtain ⟨hfields, hmethods, haccessors⟩ :=
    foldl_addComponent (typeScope settings d.scope) cs (header package d, [])
  obtain ⟨hfields', hmethods'⟩ := happends ((cs.map Component.parameter).foldl
    (addComponent (typeScope settings d.scope)) (header package d, [])).1
  rw [hfields] at hfields'
  rw [hmethods] at hmethods'
  have hcomplete : (withMembers settings { d with components := trees }) =
    withMembers settings d := rfl
  have hheader : header package { d with components := trees } = header package d := rfl
  simp only [classifier_eq, hcomponents, hcomplete, hheader, hfields', hmethods', haccessors]
  exact ⟨rfl, rfl⟩

/-- A declaration without its components. -/
def Declaration.plain (d : Declaration) : Declaration := { d with components := [] }

/-- The fields of the components stand in front of those of the body, and the accessors behind its
methods, as far as the body does not declare them. -/
theorem members_classifier (settings : Extraction) (package : Option String)
    (h : recordComponents d.components = cs.map Component.parameter) :
    let r := classifier settings package d
    let own := classifier settings package d.plain
    r.fields = cs.map (Component.field (typeScope settings d.scope)) ++ own.fields ∧
      r.methods = own.methods ++ (cs.filter fun c => (parameterless own c.name).isEmpty).map
        (Component.accessor (typeScope settings d.scope)) := by
  obtain ⟨fields, methods, hmembers⟩ := exists_members settings package d
  obtain ⟨hfields, hmethods⟩ := hmembers d.components cs h
  have hnone : recordComponents [] = [].map Component.parameter := recordComponents_listed .nil
  obtain ⟨hownFields, hownMethods⟩ := hmembers [] [] hnone
  have hown : (classifier settings package d.plain).methods = methods :=
    hownMethods.trans (by simp)
  have hownFields : (classifier settings package d.plain).fields = fields :=
    hownFields.trans (by simp)
  intro r own
  rw [hownFields, hown]
  refine ⟨hfields, hmethods.trans ?_⟩
  rw [List.filter_map]
  have hmissing :
      ((fun a : Method => !methods.any fun m => m.name == a.name && m.parameters.isEmpty)
      ∘ Component.accessor (typeScope settings d.scope)) =
      fun c => (parameterless own c.name).isEmpty := by
    funext c
    rw [Bool.eq_iff_iff, parameterless, hown]
    simp [List.filter_eq_nil_iff, Component.accessor]
  rw [hmissing]

/-- Of components with different names one has the name of a component. -/
theorem filter_name (hnodup : (cs.map Component.name).Nodup) (hc : c ∈ cs) :
    (cs.filter fun b => b.name == c.name) = [c] := by
  induction cs with
  | nil => cases hc
  | cons b cs ih =>
    rw [List.map_cons, List.nodup_cons] at hnodup
    rcases List.mem_cons.mp hc with rfl | hc
    · have hnone : (cs.filter fun b => b.name == c.name) = [] :=
        List.filter_eq_nil_iff.mpr fun b hb h =>
          hnodup.1 (List.mem_map.mpr ⟨b, hb, beq_iff_eq.mp h⟩)
      rw [List.filter_cons_of_pos (by simp), hnone]
    · have hne : (b.name == c.name) = false :=
        beq_eq_false_iff_ne.mpr fun h => hnodup.1 (h ▸ List.mem_map_of_mem hc)
      rw [List.filter_cons_of_neg (by simp [hne]), ih hnodup.2 hc]

/-- Of the accessors that the body does not declare, one at most has the name of a component. -/
theorem filter_missing (scope : TypeScope) (own : Classifier)
    (hnodup : (cs.map Component.name).Nodup) (hc : c ∈ cs) :
    (((cs.filter fun b => !b.isVariable).filter fun b => (parameterless own b.name).isEmpty).map
      (Component.accessor scope)).filter (fun m => m.name == c.name && m.parameters.isEmpty) =
      if c.isVariable = false ∧ parameterless own c.name = [] then [c.accessor scope] else [] := by
  have hnamed : (fun m : Method => m.name == c.name && m.parameters.isEmpty) ∘
      Component.accessor scope = fun b => b.name == c.name := by
    funext b
    simp [Component.accessor]
  rw [List.filter_map, hnamed, List.filter_comm, List.filter_comm (l := cs), filter_name hnodup hc]
  cases hvariable : c.isVariable with
  | true => simp [hvariable]
  | false => cases hown : parameterless own c.name <;> simp [hvariable, hown]

/-- A record has one private field for each component of fixed arity, in front of those of its body,
and behind the methods of its body the accessors of those components for which the body has none.
So each of them has one method without parameters, which the record binds. A component of variable
arity has neither a field nor an accessor. -/
theorem classifier_components (settings : Extraction) (package : Option String)
    (hlisted : Listed cs d.components) :
    let scope := typeScope settings d.scope
    let r := classifier settings package d
    let own := classifier settings package d.plain
    let fixed := cs.filter fun c => !c.isVariable
    (r.fields = fixed.map (Component.field scope) ++ own.fields ∧
      r.methods = own.methods ++ (fixed.filter fun c => (parameterless own c.name).isEmpty).map
        (Component.accessor scope)) ∧
    ((cs.map Component.name).Nodup → ∀ c ∈ cs,
      parameterless r c.name =
        if c.isVariable = false ∧ parameterless own c.name = [] then [c.accessor scope]
        else parameterless own c.name) ∧
    ((∀ c ∈ cs, c.isVariable = false) → (cs.map Component.name).Nodup →
      (∀ c ∈ cs, (parameterless own c.name).length ≤ 1) →
      r.fields = cs.map (Component.field scope) ++ own.fields ∧
      ∀ c ∈ cs, ∃ m, parameterless r c.name = [m] ∧
        (parameterless own c.name = [m] ∨ parameterless own c.name = [] ∧ m = c.accessor scope) ∧
        (m.isAbstract = false → ∀ declared : Declared, declared.Binds r ⟨c.name, 0⟩)) := by
  intro scope r own fixed
  obtain ⟨hfields, hmethods⟩ :=
    members_classifier settings package (recordComponents_listed hlisted)
  have hfound (hnodup : (cs.map Component.name).Nodup) : ∀ c ∈ cs, parameterless r c.name =
      if c.isVariable = false ∧ parameterless own c.name = [] then [c.accessor scope]
      else parameterless own c.name := by
    intro c hc
    rw [parameterless, hmethods, List.filter_append, filter_missing scope own hnodup hc]
    split
    · next h => exact (congrArg (· ++ _) h.2).trans (List.nil_append _)
    · exact List.append_nil _
  refine ⟨⟨hfields, hmethods⟩, hfound, fun hfixed hnodup hone => ?_⟩
  have hall : fixed = cs := List.filter_eq_self.mpr fun c hc => by simp [hfixed c hc]
  refine ⟨hall ▸ hfields, fun c hc => ?_⟩
  have hc' := hfound hnodup c hc
  obtain ⟨m, hm, hwhich⟩ : ∃ m, parameterless r c.name = [m] ∧
      (parameterless own c.name = [m] ∨ parameterless own c.name = [] ∧ m = c.accessor scope) := by
    cases hown : parameterless own c.name with
    | nil => exact ⟨_, hc'.trans (if_pos ⟨hfixed c hc, hown⟩), .inr ⟨rfl, rfl⟩⟩
    | cons m more =>
      have hlength := hone c hc
      rw [hown, List.length_cons] at hlength
      obtain rfl : more = [] := List.length_eq_zero_iff.mp (by omega)
      have hdeclared : ¬ (c.isVariable = false ∧ parameterless own c.name = []) := by
        simp [hown]
      exact ⟨m, (hc'.trans (if_neg hdeclared)).trans hown, .inl rfl⟩
  have hmem : m ∈ parameterless r c.name := by rw [hm]; exact List.mem_singleton_self m
  obtain ⟨hmethod, hname⟩ := List.mem_filter.mp hmem
  rw [Bool.and_eq_true, beq_iff_eq, List.isEmpty_iff] at hname
  refine ⟨m, hm, hwhich, fun hbody declared => ⟨r, .refl, m, hmethod, hbody, ?_⟩⟩
  rw [Declared.operation, hname.1, hname.2, List.length_nil]

/-! ## Two records -/

/-- A word in the trees of a record, with a blank in front of it or none. -/
def wordLeaf (gap word : String) : TokenTree := .leaf ⟨gap, .word, word⟩

/-- A symbol in the trees of a record. -/
def symbolLeaf (symbol : String) : TokenTree := .leaf ⟨"", .symbol, symbol⟩

/-- A record with an empty body. -/
def crew (components : List TokenTree) : Declaration where
  kind := .record
  modifiers := []
  name := "Crew"
  typeParameters := []
  components := components
  body := []
  length := 4

/-- The component `Ship ship`. -/
def shipComponent : Component where
  modifiers := []
  type := [wordLeaf "" "Ship"]
  first := ⟨_, rfl, by decide⟩
  parts := by decide
  angled := .cons (by decide) (.inr (by decide)) (.nil false)
  ellipsis := none
  dots := by decide
  nameTree := wordLeaf " " "ship"
  name := "ship"
  named := by decide
  notReceiver := by decide
  dimensions := []
  square := by decide

/-- The component `String... names`. -/
def namesComponent : Component where
  modifiers := []
  type := [wordLeaf "" "String"]
  first := ⟨_, rfl, by decide⟩
  parts := by decide
  angled := .cons (by decide) (.inr (by decide)) (.nil false)
  ellipsis := some (symbolLeaf "...")
  dots := by decide
  nameTree := wordLeaf " " "names"
  name := "names"
  named := by decide
  notReceiver := by decide
  dimensions := []
  square := by decide

/-- The components of a record with an empty body are all that it has. -/
theorem own_crew (components : List TokenTree) :
    (classifier {} none (crew components).plain).fields = [] ∧
      (classifier {} none (crew components).plain).methods = [] := by
  have hnone : recordComponents (crew components).plain.components = [] :=
    recordComponents_listed .nil
  have hempty (c : Classifier) : withMembers {} (crew components).plain c = c := by
    simp [withMembers, crew, Declaration.plain, members, pieces]
  have hheader : classifier {} none (crew components).plain =
      header none (crew components).plain := by
    simp only [classifier_eq, hnone, List.foldl_nil, hempty]
    rfl
  rw [hheader]
  exact ⟨rfl, rfl⟩

/-- In the record `Crew(Ship ship, String... names)` the first component has a field and an
accessor. -/
theorem classifier_components_crew :
    let d := crew (shipComponent.trees ++ symbolLeaf "," :: namesComponent.trees)
    Listed [shipComponent, namesComponent] d.components ∧
      (classifier {} none d).fields.map Field.name = ["ship"] ∧
      (classifier {} none d).methods.map Method.name = ["ship"] := by
  intro d
  have hlisted : Listed [shipComponent, namesComponent] d.components :=
    .cons shipComponent rfl (.single namesComponent)
  obtain ⟨⟨hfields, hmethods⟩, -⟩ := classifier_components {} none hlisted
  obtain ⟨hownFields, hownMethods⟩ := own_crew d.components
  have hown : ∀ name, parameterless (classifier {} none d.plain) name = [] := fun name =>
    congrArg (List.filter _) hownMethods
  refine ⟨hlisted, ?_, ?_⟩
  · rw [hfields]
    exact congrArg (["ship"] ++ List.map Field.name ·) hownFields
  · rw [hmethods, List.map_append]
    simp only [hown]
    exact congrArg (List.map Method.name · ++ ["ship"]) hownMethods

/-- The record `Crew(String... names)` has neither a field nor an accessor. -/
theorem classifier_variable :
    let d := crew namesComponent.trees
    Listed [namesComponent] d.components ∧ namesComponent.name = "names" ∧
      (classifier {} none d).fields = [] ∧ (classifier {} none d).methods = [] := by
  intro d
  have hlisted : Listed [namesComponent] d.components := .single namesComponent
  have hnone : recordComponents d.components = [].map Component.parameter :=
    recordComponents_listed hlisted
  obtain ⟨hfields, hmethods⟩ := members_classifier {} none hnone
  obtain ⟨hownFields, hownMethods⟩ := own_crew d.components
  exact ⟨hlisted, rfl, hfields.trans hownFields,
    hmethods.trans ((List.append_nil _).trans hownMethods)⟩

end ClassGraph.Source.Java
