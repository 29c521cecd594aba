import ClassGraph.Proofs.Source.TypeSyntax
import ClassGraph.Proofs.Text.Grouped
import ClassGraph.Source.Kotlin.Model

/-!
# Calls of constructors

An initial value says by its text whether it is a new object: a capitalized name is called, with
type arguments or without (`Calls`). Every such text is found to be a call, and the name is the one
that is called. Of the texts in which a `<` stands behind the name it is only asked whether a
parenthesis follows somewhere, so that a comparison with one is found to be a call, too
(`Compares`). `constructorCall?_eq_some_iff` says that there are no further texts.
-/

namespace ClassGraph.Source

open Text TypeSyntax

/-- A capitalized simple name. -/
structure Capitalized (name : List Char) : Prop where
  /-- It begins with a capital. -/
  first : ∃ c ∈ name.head?, isCapital c = true
  /-- Letters, numbers and underscores follow. -/
  plain : ∀ c ∈ name, isNameChar c = true

/-- The text is a capitalized name and what follows it, with blanks around the name. -/
structure Names (name rest s : List Char) : Prop where
  /-- The name begins with a capital. -/
  capitalized : Capitalized name
  /-- Blanks stand in front of the name and behind it. -/
  text : ∃ w w', Blank w ∧ Blank w' ∧ s = w ++ name ++ w' ++ rest

/-- What follows a name that is called: an argument list, which type arguments may precede. All
brackets in the type arguments close each other. -/
inductive Arguments : List Char → Prop
  | plain (rest : List Char) : Arguments ('(' :: rest)
  | generic {types w : List Char} (htypes : Grouped [] types) (hw : Blank w)
    (rest : List Char) : Arguments ('<' :: types ++ '>' :: (w ++ '(' :: rest))

/-- The text calls the name. -/
def Calls (name s : List Char) : Prop := ∃ rest, Names name rest s ∧ Arguments rest

/-- The text compares the name with something in which a parenthesis stands: what is behind the `<`
is no list of type arguments with an argument list behind it. -/
def Compares (name s : List Char) : Prop :=
  ∃ rest, Names name ('<' :: rest) s ∧ '(' ∈ rest ∧ ¬ Arguments ('<' :: rest)

variable {name name' rest rest' s : List Char} {c : Char}

/-- The name at the front of a text. -/
def frontName (s : List Char) : List Char := (trimStart s).takeWhile isNameChar

/-- What follows the name at the front of a text. -/
def behindName (s : List Char) : List Char := trimStart ((trimStart s).dropWhile isNameChar)

/-- The blanks at the front of a text and what stands behind them. -/
theorem exists_append_trimStart (s : List Char) : ∃ w, Blank w ∧ s = w ++ trimStart s :=
  ⟨s.takeWhile isSpace, fun _ hc => List.mem_takeWhile_imp hc,
    List.takeWhile_append_dropWhile.symm⟩

/-- A text whose name is capitalized is that name and what follows it. -/
theorem names_front (h : ∃ c ∈ (frontName s).head?, isCapital c = true) :
    Names (frontName s) (behindName s) s := by
  obtain ⟨w, hw, hs⟩ := exists_append_trimStart s
  obtain ⟨w', hw', hrest⟩ := exists_append_trimStart ((trimStart s).dropWhile isNameChar)
  refine ⟨⟨h, fun c hc => List.mem_takeWhile_imp hc⟩, w, w', hw, hw', ?_⟩
  calc s = w ++ (frontName s ++ (trimStart s).dropWhile isNameChar) := by
        rw [frontName, List.takeWhile_append_dropWhile, ← hs]
    _ = w ++ frontName s ++ w' ++ behindName s := by
        rw [hrest, behindName]
        simp only [List.append_assoc]

/-- The name and what follows it are found at the front of the text. -/
theorem Names.eq_front (h : Names name (c :: rest) s) (hspace : isSpace c = false)
    (hname : isNameChar c = false) : frontName s = name ∧ behindName s = c :: rest := by
  obtain ⟨⟨⟨d, hd, -⟩, hplain⟩, w, w', hw, hw', rfl⟩ := h
  obtain ⟨cs, rfl⟩ := List.head?_eq_some_iff.mp hd
  have hfirst : isSpace d = false := not_isSpace_of_isNameChar (hplain d List.mem_cons_self)
  have hstops : Stops (w' ++ c :: rest) := (stops_of_blank hw').append (stops_cons hname rest)
  have hstart : trimStart (w ++ (d :: cs) ++ w' ++ c :: rest) =
      (d :: cs) ++ (w' ++ c :: rest) := by
    rw [List.append_assoc, List.append_assoc, trimStart_append_left hw, List.cons_append,
      trimStart_cons hfirst]
  rw [frontName, behindName, hstart, takeWhile_of_stops hplain hstops,
    dropWhile_of_stops hplain hstops, trimStart_append_left hw', trimStart_cons hspace]
  exact ⟨rfl, rfl⟩

/-- What follows the name decides whether a call is found. -/
def LooksCalled (rest : List Char) : Prop :=
  rest.head? = some '(' ∨ rest.head? = some '<' ∧ '(' ∈ rest

/-- What looks called begins with a character that is neither a blank nor one of a name. -/
theorem LooksCalled.exists_cons (h : LooksCalled rest) :
    ∃ c rest', rest = c :: rest' ∧ isSpace c = false ∧ isNameChar c = false := by
  rcases h with h | ⟨h, -⟩
  · obtain ⟨rest', rfl⟩ := List.head?_eq_some_iff.mp h
    exact ⟨_, rest', rfl, by decide, by decide⟩
  · obtain ⟨rest', rfl⟩ := List.head?_eq_some_iff.mp h
    exact ⟨_, rest', rfl, by decide, by decide⟩

/-- A call is found when a text is a capitalized name and something that looks called. -/
theorem constructorCall?_eq_some_iff_exists :
    constructorCall? s = some name ↔ ∃ rest, Names name rest s ∧ LooksCalled rest := by
  have hcall : constructorCall? s =
      if ((behindName s).head? == some '(' ||
          ((behindName s).head? == some '<' && (behindName s).contains '(')) &&
            (frontName s).head?.any isCapital
      then some (frontName s) else none := rfl
  rw [hcall, Option.ite_none_right_eq_some]
  simp only [Bool.and_eq_true, Bool.or_eq_true, beq_iff_eq, List.contains_iff_mem,
    Option.any_eq_true, Option.some.injEq]
  constructor
  · rintro ⟨⟨hlooks, hcapital⟩, rfl⟩
    exact ⟨behindName s, names_front hcapital, hlooks⟩
  · rintro ⟨rest, hnames, hlooks⟩
    obtain ⟨c, rest, rfl, hspace, hname⟩ := hlooks.exists_cons
    obtain ⟨hfront, hbehind⟩ := hnames.eq_front hspace hname
    rw [hfront, hbehind]
    exact ⟨⟨hlooks, hnames.capitalized.first⟩, rfl⟩

/-- A name with arguments behind it looks called. -/
theorem Arguments.looksCalled (h : Arguments rest) : LooksCalled rest := by
  cases h with
  | plain rest => exact .inl rfl
  | generic htypes hw rest => exact .inr ⟨rfl, by simp⟩

/-- What looks called has type arguments, or is compared. -/
theorem looksCalled_iff : LooksCalled rest ↔
    Arguments rest ∨ ∃ rest', rest = '<' :: rest' ∧ '(' ∈ rest' ∧ ¬ Arguments rest := by
  constructor
  · intro h
    by_cases harguments : Arguments rest
    · exact .inl harguments
    rcases h with h | ⟨h, hmem⟩
    · obtain ⟨rest', rfl⟩ := List.head?_eq_some_iff.mp h
      exact absurd (.plain rest') harguments
    · obtain ⟨rest', rfl⟩ := List.head?_eq_some_iff.mp h
      exact .inr ⟨rest', rfl, List.mem_of_ne_of_mem (by decide) hmem, harguments⟩
  · rintro (h | ⟨rest', rfl, hmem, -⟩)
    · exact h.looksCalled
    · exact .inr ⟨rfl, List.mem_cons_of_mem '<' hmem⟩

/-- What follows the name is found again, so that no text is a call and a comparison. -/
theorem Calls.not_compares (h : Calls name s) : ¬ Compares name' s := by
  rintro ⟨rest', hnames', -, hnone⟩
  obtain ⟨rest, hnames, harguments⟩ := h
  obtain ⟨c, rest, rfl, hspace, hname⟩ := harguments.looksCalled.exists_cons
  obtain ⟨-, hbehind⟩ := hnames.eq_front hspace hname
  obtain ⟨-, hbehind'⟩ := hnames'.eq_front (by decide) (by decide)
  rw [← hbehind', hbehind] at hnone
  exact hnone harguments

/-- The texts that are found to be calls: those that call the name, and besides them just those that
compare it with something in which a parenthesis stands. -/
theorem constructorCall?_eq_some_iff (s : List Char) :
    (∀ name, constructorCall? s = some name ↔ Calls name s ∨ Compares name s) ∧
      ∀ name name', ¬ (Calls name s ∧ Compares name' s) := by
  refine ⟨fun name => ?_, fun name name' h => h.1.not_compares h.2⟩
  rw [constructorCall?_eq_some_iff_exists]
  constructor
  · rintro ⟨rest, hnames, hlooks⟩
    rcases looksCalled_iff.mp hlooks with harguments | ⟨rest', rfl, hmem, hnone⟩
    · exact .inl ⟨rest, hnames, harguments⟩
    · exact .inr ⟨rest', hnames, hmem, hnone⟩
  · rintro (⟨rest, hnames, harguments⟩ | ⟨rest, hnames, hmem, hnone⟩)
    · exact ⟨rest, hnames, harguments.looksCalled⟩
    · exact ⟨_, hnames, looksCalled_iff.mpr (.inr ⟨rest, rfl, hmem, hnone⟩)⟩

/-- A closing bracket stands behind type arguments. -/
theorem Arguments.mem_of_angle (h : Arguments ('<' :: rest)) : '>' ∈ rest := by
  generalize hs : '<' :: rest = s at h
  cases h with
  | plain rest => cases hs
  | generic htypes hw rest' =>
    obtain rfl := (List.cons.inj hs).2
    exact List.mem_append_right _ List.mem_cons_self

/-- A comparison of a constant with the result of a function is no call, but is found to be one: the
property whose initial value it is has the constant for its type, and owns it. -/
theorem constructorCall?_comparison :
    (∀ name, ¬ Calls name "Max < limit(3)".toList) ∧
      constructorCall? "Max < limit(3)".toList = some "Max".toList ∧
      Kotlin.addProperty (Kotlin.typeScope {} []) { name := "Gauge", kind := .plain }
        "val low = Max < limit(3)".toList =
          { name := "Gauge", kind := .plain
            fields := [{ name := "low", typeName := "Max", visibility := .toAll }]
            relations := [{ kind := .composition, target := "Max", via := some "low" }] } := by
  have hnames : Names "Max".toList ('<' :: " limit(3)".toList) "Max < limit(3)".toList :=
    ⟨⟨⟨'M', rfl, rfl⟩, forall_mem_of_all (by decide)⟩, [], [' '], blank_nil, blank_singleton, rfl⟩
  have hcompares : Compares "Max".toList "Max < limit(3)".toList :=
    ⟨_, hnames, by decide, fun h => absurd h.mem_of_angle (by decide)⟩
  refine ⟨fun name h => h.not_compares hcompares, by decide +kernel, by decide +kernel⟩

end ClassGraph.Source
