import ClassGraph.Proofs.Source.TypeReading
import ClassGraph.Proofs.Text.Bracketed

/-!
# Function types among type arguments

The text of a name with type arguments is read without looking into the arguments, but for the first
argument of a container. The arguments may be any bracketed texts, types of functions among them.
An arrow is taken for that of the whole text wherever it stands, so that one function type among the
arguments hides the type around it (`resolve_functionArgument`). Where there is none, the type is
read by its name and its first argument. `resolve_generic` says both.
-/

namespace ClassGraph.TypeSyntax

open Text TypeRef

/-- The texts of a name with type arguments that have the given texts, of which nothing else is
known. A question mark may stand behind. -/
inductive Generic (n : TypeName) (arguments : List (List Char)) : List Char → Prop
  | plain {name w : List Char} (hname : Dotted n.qualifiers n.simple name) (hw : Blank w) :
    Generic n arguments (name ++ '<' :: join [','] arguments ++ ['>'] ++ w)
  | nullable {name w w' : List Char} (hname : Dotted n.qualifiers n.simple name) (hw : Blank w)
    (hw' : Blank w') :
    Generic n arguments (name ++ '<' :: join [','] arguments ++ ['>'] ++ (w ++ '?' :: w'))

variable {scope : TypeScope} {n : TypeName} {qs : List Identifier} {i : Identifier}
  {w w' s t first : List Char} {more : List (List Char)} {c : Char}

/-! ## Texts with arguments -/

/-- Blanks, and a question mark among them, make no difference behind a type. -/
theorem targetOf_normalized_pad (hw : Blank w) (s : List Char) :
    targetOf scope (TypeRef.normalized (s ++ w)) = targetOf scope (TypeRef.normalized s) := by
  obtain ⟨g, hg, happend⟩ := exists_normalized_append s w
  have hpad := targetOf_pad scope (s := TypeRef.normalized s) blank_nil hg
  rwa [List.nil_append, ← List.append_nil (_ ++ g), ← normalized_of_blank hw, ← happend] at hpad

/-- A question mark behind a type leaves its target as it is. -/
theorem targetOf_normalized_question (h : Opens (TypeRef.normalized s))
    (hends : Ends (TypeRef.normalized s) c) (hc : c ≠ '?') (hw : Blank w) (hw' : Blank w') :
    targetOf scope (TypeRef.normalized (s ++ (w ++ '?' :: w'))) =
      targetOf scope (TypeRef.normalized s) := by
  have hquestion : s ++ (w ++ '?' :: w') = s ++ w ++ ['?'] ++ w' := by simp
  obtain ⟨g, hg, hpad⟩ := exists_normalized_append s w
  obtain ⟨g', hg', hmark⟩ :=
    exists_normalized_concat (s ++ w) (t := ['?']) (forall_mem_of_all (by decide))
  rw [hquestion, targetOf_normalized_pad hw', hmark, hpad, normalized_of_blank hw, List.append_nil,
    List.append_assoc (TypeRef.normalized s)]
  have hblank : Blank (g ++ g') := hg.append hg'
  have hopens : Opens (TypeRef.normalized s ++ (g ++ g')) := h.append_right (stops_of_blank hblank)
  have hlast : Ends (TypeRef.normalized s ++ (g ++ g')) c := hends.append_right hblank
  refine targetOf_congr ?_
  rw [core_question hopens hlast hc, trim_append_right _ hblank, core_of_opens h hends hc]

/-- The normal form of a name with arguments. -/
theorem exists_normalized_generic (hs : Dotted qs i s) (t : List Char) :
    ∃ s' w w', Dotted qs i s' ∧ Blank w ∧ Blank w' ∧
      TypeRef.normalized (s ++ '<' :: t ++ ['>']) =
        s' ++ '<' :: (w ++ TypeRef.normalized t ++ w') ++ ['>'] := by
  obtain ⟨w', hw', hclosing⟩ :=
    exists_normalized_concat (s ++ '<' :: t) (t := ['>']) (forall_mem_of_all (by decide))
  obtain ⟨g, hg, hopening⟩ := exists_normalized_append s ('<' :: t)
  obtain ⟨w, hw, hbehind⟩ := exists_normalized_append ['<'] t
  rw [normalized_word (s := ['<']) (forall_mem_of_all (by decide)), List.singleton_append]
    at hbehind
  refine ⟨TypeRef.normalized s ++ g, w, w', hs.normalized.append_right hg, hw, hw', ?_⟩
  rw [hclosing, hopening, hbehind]
  simp

/-- The first part of a split at commas is the first argument, as its normal form is read. -/
theorem exists_head?_splitTopLevel (scope : TypeScope) (hfirst : Bracketed false first)
    (hdash : '-' ∉ first) (hne : ¬ Blank first) (hw : Blank w) (hw' : Blank w')
    (more : List (List Char)) :
    ∃ x, (splitTopLevel ',' (w ++ TypeRef.normalized (join [','] (first :: more)) ++ w')).head? =
        some x ∧ targetOf scope x = targetOf scope (TypeRef.normalized first) := by
  have hinert : Inert 0 (TypeRef.normalized first) :=
    ⟨keepsDepth_normalized hfirst.nested hdash, mt (mem_normalized_iff rfl).mp hdash⟩
  have hnested {g : List Char} (hg : Blank g) : Nested (w ++ TypeRef.normalized first ++ g) :=
    (((inert_of_blank hw).append hinert).append (inert_of_blank hg)).1
  have hread {g : List Char} (hg : Blank g) :
      targetOf scope (trim (w ++ TypeRef.normalized first ++ g)) =
        targetOf scope (TypeRef.normalized first) :=
    (targetOf_trim scope _).trans (targetOf_pad scope hw hg)
  cases more with
  | nil =>
    have htrim : trim (w ++ TypeRef.normalized first ++ w') ≠ [] := by
      rw [trim_append_right _ hw', trim_append_left hw, Ne, trim_eq_nil_iff, blank_normalized_iff]
      exact hne
    refine ⟨_, ?_, hread hw'⟩
    rw [join, splitTopLevel_of_nested (hnested hw') htrim, List.head?_cons]
  | cons a more =>
    -- What stands behind the first comma is not looked at.
    obtain ⟨g, hg, happend⟩ := exists_normalized_append first (',' :: join [','] (a :: more))
    obtain ⟨rest, hcomma⟩ := exists_normalized_cons (c := ',') rfl (join [','] (a :: more))
    have htext : w ++ TypeRef.normalized (join [','] (first :: a :: more)) ++ w' =
        w ++ TypeRef.normalized first ++ g ++ ',' :: (rest ++ w') := by
      rw [join, List.append_assoc first, List.singleton_append, happend, hcomma]
      simp
    refine ⟨_, ?_, hread hg⟩
    rw [htext, splitTopLevel_append (hnested hg), List.head?_cons]

/-- An arrow among the arguments of a name is taken for the arrow of the whole text. -/
theorem targetOf_of_arrow (hname : Dotted qs i s) (harrow : "->".toList <:+: t) :
    targetOf scope (TypeRef.normalized (s ++ '<' :: t ++ ['>'])) = (none, false) := by
  obtain ⟨s', w, w', hs', -, -, hnormal⟩ := exists_normalized_generic hname t
  have hopens : Opens (TypeRef.normalized (s ++ '<' :: t ++ ['>'])) := by
    rw [hnormal, List.append_assoc]
    exact hs'.opens.append_right (stops_cons (by decide) _)
  have hends : Ends (TypeRef.normalized (s ++ '<' :: t ++ ['>'])) '>' := by
    rw [hnormal]
    exact ends_concat _ rfl
  have hcore := (core_of_opens hopens hends (by decide)).trans (trim_normalized _)
  have hfunction : isFunctionType (core (TypeRef.normalized (s ++ '<' :: t ++ ['>']))) = true := by
    have hinside : t <:+: s ++ '<' :: t ++ ['>'] := ⟨s ++ ['<'], ['>'], by simp⟩
    rw [hcore, isFunctionType, containsText_iff]
    exact infix_normalized (forall_mem_of_all (by decide)) (harrow.trans hinside)
  refine targetOf_of_nothing (if_pos ?_)
  rw [refersToNothing, hfunction, Bool.or_true]

/-- Without an arrow, a name with arguments is read by the name and the first argument. -/
theorem targetOf_of_noArrow (hname : Dotted n.qualifiers n.simple s)
    (harguments : ∀ a ∈ first :: more, Bracketed false a ∧ ¬ Blank a)
    (harrow : ∀ a ∈ first :: more, ¬ "->".toList <:+: a) :
    targetOf scope (TypeRef.normalized (s ++ '<' :: join [','] (first :: more) ++ ['>'])) =
      n.reference scope (targetOf scope (TypeRef.normalized first)).1 := by
  have hdash : ∀ a ∈ first :: more, '-' ∉ a := fun a ha =>
    (harguments a ha).1.notMem_dash (harrow a ha)
  have hnone : '-' ∉ s ++ '<' :: join [','] (first :: more) ++ ['>'] := by
    simp only [List.mem_append, List.mem_cons, List.not_mem_nil, or_false, not_or]
    refine ⟨⟨hname.notMem (by decide), by decide, fun hmem => ?_⟩, by decide⟩
    rcases mem_join hmem with ⟨a, ha, hmem⟩ | hmem
    · exact hdash a ha hmem
    · exact absurd hmem (by decide)
  obtain ⟨s', w, w', hs', hw, hw', hnormal⟩ :=
    exists_normalized_generic hname (join [','] (first :: more))
  rw [← mem_normalized_iff rfl, hnormal] at hnone
  obtain ⟨hfirst, hne⟩ := harguments first List.mem_cons_self
  obtain ⟨x, hhead, hread⟩ := exists_head?_splitTopLevel scope hfirst
    (hdash first List.mem_cons_self) hne hw hw' more
  rw [hnormal]
  refine targetOf_generic hs' hnone fun _ => ?_
  rw [hhead, Option.bind_some, hread]

/-- What stands behind the arguments of a name makes no difference. -/
theorem Generic.exists_targetOf (scope : TypeScope) {arguments : List (List Char)}
    (h : Generic n arguments s) :
    Opens s ∧ ∃ name, Dotted n.qualifiers n.simple name ∧
      targetOf scope (TypeRef.normalized s) =
        targetOf scope (TypeRef.normalized (name ++ '<' :: join [','] arguments ++ ['>'])) := by
  have hopens {name : List Char} (hname : Dotted n.qualifiers n.simple name) (t u : List Char) :
      Opens (name ++ '<' :: t ++ ['>'] ++ u) := by
    rw [List.append_assoc, List.append_assoc]
    exact hname.opens.append_right (stops_cons (by decide) _)
  cases h with
  | plain hname hw => exact ⟨hopens hname _ _, _, hname, targetOf_normalized_pad hw _⟩
  | @nullable name w w' hname hw hw' =>
    obtain ⟨s', g, g', hs', -, -, hnormal⟩ :=
      exists_normalized_generic hname (join [','] arguments)
    have hclosing : '>' ≠ '?' := by decide
    refine ⟨hopens hname _ _, _, hname, targetOf_normalized_question ?_ ?_ hclosing hw hw'⟩
    · have hstart := hopens hs' (g ++ TypeRef.normalized (join [','] arguments) ++ g') []
      rwa [List.append_nil, ← hnormal] at hstart
    · rw [hnormal]
      exact ends_concat _ rfl

end ClassGraph.TypeSyntax

namespace ClassGraph

open Text TypeSyntax

/-- The reading of a name with type arguments, which may be any bracketed texts. When a function
type stands in one of them, the whole refers to nothing and is no collection, whatever the name is.
When none does, a container refers to what its first argument refers to, values and type parameters
refer to nothing, and every other name refers to its declaration. -/
theorem resolve_generic (scope : TypeScope) (n : TypeName) (first : List Char)
    (more : List (List Char)) (s : List Char) (h : Generic n (first :: more) s)
    (harguments : ∀ a ∈ first :: more, Bracketed false a ∧ ¬ Blank a) :
    ((∃ a ∈ first :: more, "->".toList <:+: a) →
      (TypeRef.resolve scope s).target = none ∧ (TypeRef.resolve scope s).isCollection = false) ∧
    ((∀ a ∈ first :: more, ¬ "->".toList <:+: a) → (trimStart first).head? ≠ some '@' →
      ((TypeRef.resolve scope s).target, (TypeRef.resolve scope s).isCollection) =
        n.reference scope (TypeRef.resolve scope first).target) := by
  obtain ⟨hopens, name, hname, hread⟩ := h.exists_targetOf scope
  have hresolve : ((TypeRef.resolve scope s).target, (TypeRef.resolve scope s).isCollection) =
      TypeRef.targetOf scope
        (TypeRef.normalized (name ++ '<' :: join [','] (first :: more) ++ ['>'])) := by
    rw [← hread, TypeRef.resolve, withoutAnnotations_of_opens hopens, TypeRef.normalized_trimStart]
  refine ⟨?_, fun hnone hat => ?_⟩
  · rintro ⟨a, ha, harrow⟩
    rw [targetOf_of_arrow hname (harrow.trans (infix_join ha)), Prod.mk.injEq] at hresolve
    exact hresolve
  · have hfirst : TypeRef.withoutAnnotations first = trimStart first :=
      withoutAnnotations_of_ne fun rest hrest => hat (by rw [hrest]; rfl)
    rw [hresolve, targetOf_of_noArrow hname harguments hnone, TypeRef.resolve, hfirst,
      TypeRef.normalized_trimStart]

/-- The full name of maps. -/
def fullMapName : TypeName where
  qualifiers := [⟨"kotlin".toList, ⟨'k', rfl, .inl rfl⟩, by decide, by decide⟩,
    ⟨"collections".toList, ⟨'c', rfl, .inl rfl⟩, by decide, by decide⟩]
  simple := mapName.simple

/-- The full name of maps is a dotted name. -/
theorem dotted_fullMapName :
    Dotted fullMapName.qualifiers fullMapName.simple "kotlin.collections.Map".toList :=
  .qualified _ blank_nil blank_nil
    (.qualified _ blank_nil blank_nil (.simple _ blank_nil blank_nil))

/-- Ships, and functions from ships. -/
def shipHandlers : List (List Char) := ["Ship".toList, " (Ship) -> Unit".toList]

/-- The map of handlers is a generic type with its arguments. -/
theorem generic_shipHandlers :
    Generic fullMapName shipHandlers "kotlin.collections.Map<Ship, (Ship) -> Unit>".toList := by
  have htext : "kotlin.collections.Map<Ship, (Ship) -> Unit>".toList =
    "kotlin.collections.Map".toList ++ '<' :: join [','] shipHandlers ++ ['>'] ++ [] := by decide
  rw [htext]
  exact .plain dotted_fullMapName blank_nil

/-- The brackets in the arguments of the map of handlers close each other, and none of the arguments
is blank. -/
theorem bracketed_shipHandlers : ∀ a ∈ shipHandlers, Bracketed false a ∧ ¬ Blank a := by
  have hship {commas : Bool} : Bracketed commas "Ship".toList :=
    bracketed_of_forall (forall_mem_of_all (by decide))
  have hresult : Bracketed false " -> Unit".toList :=
    .plain (by decide) (.arrow (bracketed_of_forall (forall_mem_of_all (by decide))))
  have hfunction : Bracketed false " (Ship) -> Unit".toList :=
    .plain (by decide) (.group (by decide) hship hresult)
  rw [shipHandlers, List.forall_mem_cons, List.forall_mem_singleton]
  exact ⟨⟨hship, not_blank_cons rfl _⟩, hfunction,
    fun hblank => absurd (hblank '(' (by decide)) (by decide)⟩

/-- Ships, and lists of ships. -/
def shipLists : List (List Char) := ["Ship".toList, " List<out Ship>".toList]

/-- The map of lists is a generic type with its arguments. -/
theorem generic_shipLists :
    Generic fullMapName shipLists "kotlin.collections.Map<Ship, List<out Ship>> ?".toList := by
  have htext : "kotlin.collections.Map<Ship, List<out Ship>> ?".toList =
    "kotlin.collections.Map".toList ++ '<' :: join [','] shipLists ++ ['>'] ++
      ([' '] ++ '?' :: []) := by decide
  rw [htext]
  exact .nullable dotted_fullMapName blank_singleton blank_nil

/-- The brackets in the arguments of the map of lists close each other, and none of the arguments is
blank. -/
theorem bracketed_shipLists : ∀ a ∈ shipLists, Bracketed false a ∧ ¬ Blank a := by
  have hname : Bracketed false " List".toList :=
    bracketed_of_forall (forall_mem_of_all (by decide))
  have hout : Bracketed true "out Ship".toList :=
    bracketed_of_forall (forall_mem_of_all (by decide))
  have hgroup : Bracketed false ('<' :: "out Ship".toList ++ '>' :: []) :=
    .group (by decide) hout .nil
  rw [shipLists, List.forall_mem_cons, List.forall_mem_singleton]
  exact ⟨bracketed_shipHandlers _ (by decide), hname.append hgroup,
    fun hblank => absurd (hblank 'L' (by decide)) (by decide)⟩

/-- A map of ships to lists of ships is read as what it holds, and a map of ships to functions as
nothing. -/
theorem resolve_generic_map :
    let scope : TypeScope := { language := .kotlin, settings := {} }
    let lists := "kotlin.collections.Map<Ship, List<out Ship>> ?".toList
    let functions := "kotlin.collections.Map<Ship, (Ship) -> Unit>".toList
    Generic fullMapName shipLists lists ∧
      ((TypeRef.resolve scope lists).target, (TypeRef.resolve scope lists).isCollection) =
        (some "Ship", true) ∧
      Generic fullMapName shipHandlers functions ∧
      (TypeRef.resolve scope functions).target = none ∧
      (TypeRef.resolve scope functions).isCollection = false := by
  intro scope lists functions
  have harrow : ∃ a ∈ shipHandlers, "->".toList <:+: a :=
    ⟨_, List.mem_cons_of_mem _ List.mem_cons_self, " (Ship) ".toList, " Unit".toList, rfl⟩
  have hnone : ∀ a ∈ shipLists, ¬ "->".toList <:+: a := by
    rw [shipLists, List.forall_mem_cons, List.forall_mem_singleton]
    constructor <;> exact fun harrow => absurd (harrow.subset List.mem_cons_self) (by decide)
  have hread :=
    (resolve_generic scope _ _ _ _ generic_shipLists bracketed_shipLists).2 hnone (by decide)
  have hheld : fullMapName.reference scope (TypeRef.resolve scope "Ship".toList).target =
      (some "Ship", true) := by decide +kernel
  exact ⟨generic_shipLists, hread.trans hheld, generic_shipHandlers,
    (resolve_generic scope _ _ _ _ generic_shipHandlers bracketed_shipHandlers).1 harrow⟩

/-- A function type among the arguments of a container hides what the container holds, and that it
is one. -/
theorem resolve_functionArgument :
    let scope : TypeScope := { language := .kotlin, settings := {} }
    let text := "kotlin.collections.Map<Ship, (Ship) -> Unit>".toList
    Generic fullMapName shipHandlers text ∧
      (∀ a ∈ shipHandlers, Bracketed false a ∧ ¬ Blank a) ∧
      isCollection scope.settings fullMapName.last = true ∧
      (TypeRef.resolve scope "Ship".toList).target = some "Ship" ∧
      TypeRef.resolve scope text =
        { display := "kotlin.collections.Map<Ship, (Ship) -> Unit>", target := none,
          isCollection := false } :=
  ⟨generic_shipHandlers, bracketed_shipHandlers, by decide,
    by decide +kernel, by decide +kernel⟩

end ClassGraph
