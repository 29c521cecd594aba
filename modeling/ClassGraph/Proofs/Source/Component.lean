import Mathlib.Data.List.Nodup
import ClassGraph.Source.Java.Model

/-!
# The components of records

A component of a record is read from its trees: modifiers, a type and a name, with dots in front of
the name where the component is of variable arity (`Component`). The commas between angle brackets
belong to the types (`Angled`), so that a list of components (`Listed`) is cut into just these
(`splitCommas_listed`). Those of fixed arity are found, and no others (`recordComponents_listed`).
-/

namespace ClassGraph.Source.Java

open TokenTree

/-! ## Components -/

/-- The symbol that a tree is. -/
def symbol? : TokenTree → Option String
  | .leaf t => if t.kind = .symbol then some t.text else none
  | .group .. => none

/-- Angle brackets close each other, and commas stand inside of them unless `commas` is set. -/
inductive Angled : Bool → List TokenTree → Prop
  | nil (commas : Bool) : Angled commas []
  | cons {commas : Bool} {t : TokenTree} {ts : List TokenTree}
    (hangle : symbol? t ≠ some "<" ∧ symbol? t ≠ some ">")
    (hcomma : commas = true ∨ symbol? t ≠ some ",") (hts : Angled commas ts) :
    Angled commas (t :: ts)
  | angle {commas : Bool} {opening closing : TokenTree} {inner ts : List TokenTree}
    (hopening : symbol? opening = some "<") (hclosing : symbol? closing = some ">")
    (hinner : Angled true inner) (hts : Angled commas ts) :
    Angled commas (opening :: (inner ++ closing :: ts))

/-- What may stand in front of the type of a component. -/
inductive ComponentModifier where
  /-- A word. -/
  | word (t : TokenTree) (h : t.isWordIn modifierWords = true)
  /-- An annotation with a dotted name, and with arguments or without. -/
  | annotated (mark name : TokenTree) (more : List (TokenTree × TokenTree))
    (arguments : Option TokenTree) (hmark : symbol? mark = some "@")
    (hname : name.name?.isSome = true ∧ name.isWord "interface" = false)
    (hmore : ∀ pair ∈ more, symbol? pair.1 = some "." ∧ pair.2.name?.isSome = true)
    (harguments : ∀ t ∈ arguments, t.isParens = true)

/-- The trees of a modifier. -/
def ComponentModifier.trees : ComponentModifier → List TokenTree
  | .word t _ => [t]
  | .annotated mark name more arguments .. =>
    mark :: name :: (more.flatMap (fun pair => [pair.1, pair.2]) ++ arguments.toList)

/-- A component of a record. -/
structure Component where
  /-- Words and annotations in front of the type. -/
  modifiers : List ComponentModifier
  /-- The type. -/
  type : List TokenTree
  /-- The type begins with a name that is no modifier. -/
  first : ∃ t ∈ type.head?, t.name?.isSome = true ∧ t.isWordIn modifierWords = false
  /-- Names, brackets and the symbols of types are all that the type holds. -/
  parts : ∀ t ∈ type, isTypePart t = true ∨ t.isSquare = true ∨ t.isParens = true
  /-- The commas of the type stand between angle brackets. -/
  angled : Angled false type
  /-- The dots of a component of variable arity. -/
  ellipsis : Option TokenTree
  /-- They are one symbol. -/
  dots : ∀ t ∈ ellipsis, symbol? t = some "..."
  /-- The tree of the name. -/
  nameTree : TokenTree
  /-- The name. -/
  name : String
  /-- The tree is the name. -/
  named : nameTree.name? = some name
  /-- No component is the receiver. -/
  notReceiver : name ≠ "this"
  /-- The dimensions behind the name. -/
  dimensions : List TokenTree
  /-- They are square brackets. -/
  square : ∀ t ∈ dimensions, t.isSquare = true

namespace Component

/-- The trees of a component. -/
def trees (c : Component) : List TokenTree :=
  c.modifiers.flatMap ComponentModifier.trees ++
    (c.type ++ (c.ellipsis.toList ++ c.nameTree :: c.dimensions))

/-- Whether a component is of variable arity. -/
def isVariable (c : Component) : Bool := c.ellipsis.isSome

end Component

/-- The trees list the components, with commas between them. -/
inductive Listed : List Component → List TokenTree → Prop
  | nil : Listed [] []
  | single (c : Component) : Listed [c] c.trees
  | cons (c : Component) {comma : TokenTree} {next : Component} {cs : List Component}
    {ts : List TokenTree} (hcomma : symbol? comma = some ",") (hts : Listed (next :: cs) ts) :
    Listed (c :: next :: cs) (c.trees ++ comma :: ts)

variable {t : TokenTree} {ts rest : List TokenTree} {c : Component} {cs : List Component}
  {commas : Bool} {symbol : String}

/-! ## Symbols -/

/-- A tree is a symbol when this is the symbol that it shows. -/
theorem isSymbol_iff : t.isSymbol symbol = true ↔ symbol? t = some symbol := by
  cases t <;> simp [isSymbol, symbol?]

/-- A tree that shows another symbol, or none, is not this symbol. -/
theorem isSymbol_eq_false (h : symbol? t ≠ some symbol) : t.isSymbol symbol = false :=
  Bool.eq_false_iff.mpr (mt isSymbol_iff.mp h)

/-- A word shows no symbol. -/
theorem symbol?_of_word (h : t.word?.isSome = true) : symbol? t = none := by
  cases t with
  | leaf t =>
    have hword : t.kind = .word := by simpa [word?] using h
    simp [symbol?, hword]
  | group => rfl

/-- A name is a word. -/
theorem word?_of_name (h : t.name?.isSome = true) : t.word?.isSome = true := by
  rw [name?] at h
  cases hword : t.word? with
  | none => simp [hword] at h
  | some w => rfl

/-- One of some words is a word. -/
theorem word?_of_isWordIn {words : List String} (h : t.isWordIn words = true) :
    t.word?.isSome = true := by
  rw [isWordIn] at h
  exact Option.isSome_of_any h

/-- A group shows no symbol. -/
theorem symbol?_of_group {bracket : Char} (h : t.isGroup bracket = true) : symbol? t = none := by
  cases t with
  | leaf t => simp [isGroup] at h
  | group => rfl

/-- The symbols of a type are angle brackets and some others. -/
theorem symbol?_of_isTypePart (h : isTypePart t = true) (hs : symbol? t = some symbol) :
    symbol ∈ "<" :: ">" :: typeSymbols := by
  rw [isTypePart, Bool.or_eq_true] at h
  rcases h with h | h
  · rw [symbol?_of_word h] at hs
    cases hs
  · cases t with
    | leaf t =>
      obtain ⟨-, hs⟩ := Option.ite_none_right_eq_some.mp hs
      obtain rfl := Option.some.inj hs
      exact List.contains_iff_mem.mp (Bool.and_eq_true_iff.mp h).2
    | group => cases hs

/-! ## Commas outside of angle brackets -/

/-- Trees whose angle brackets close each other are passed over inside of angle brackets. -/
theorem angleLengthFrom_append (h : Angled commas ts) {depth : Nat} (hdepth : 1 ≤ depth)
    (rest : List TokenTree) :
    angleLengthFrom depth (ts ++ rest) = ts.length + angleLengthFrom depth rest := by
  -- Inside of a group the depth is one more, and behind it the same again.
  induction h generalizing depth rest with
  | nil => simp
  | cons hangle hcomma hts ih =>
    rw [List.cons_append, angleLengthFrom, isSymbol_eq_false hangle.1, isSymbol_eq_false hangle.2,
      if_neg Bool.false_ne_true, if_neg Bool.false_ne_true, ih hdepth, List.length_cons]
    omega
  | @angle _ opening closing inner ts hopening hclosing hinner hts ihinner ihts =>
    have hclose : closing.isSymbol "<" = false := isSymbol_eq_false (by simp [hclosing])
    rw [List.cons_append, List.append_assoc, angleLengthFrom, isSymbol_iff.mpr hopening, if_pos rfl,
      ihinner (by omega), List.cons_append, angleLengthFrom, hclose, if_neg Bool.false_ne_true,
      isSymbol_iff.mpr hclosing, if_pos rfl, if_neg (by omega), Nat.add_sub_cancel, ihts hdepth]
    simp only [List.length_cons, List.length_append]
    omega

/-- Angle brackets end with the one that closes the first. -/
theorem angleLength_angle {opening closing : TokenTree} (hopening : symbol? opening = some "<")
    (hclosing : symbol? closing = some ">") (hts : Angled true ts) (rest : List TokenTree) :
    angleLength (opening :: (ts ++ closing :: rest)) = ts.length + 2 := by
  have hclose : closing.isSymbol "<" = false := isSymbol_eq_false (by simp [hclosing])
  rw [angleLength, List.head?_cons, Option.any_some, isSymbol_iff.mpr hopening, if_pos rfl,
    angleLengthFrom, isSymbol_iff.mpr hopening, if_pos rfl, angleLengthFrom_append hts (by omega),
    angleLengthFrom, hclose, if_neg Bool.false_ne_true, isSymbol_iff.mpr hclosing, if_pos rfl,
    if_pos (by omega)]
  omega

/-- Trees whose commas stand between angle brackets are not cut. -/
theorem splitTrees_append (h : Angled false ts) (held rest : List TokenTree) :
    splitTrees (isSymbol ",") angleLength held (ts ++ rest) =
      splitTrees (isSymbol ",") angleLength (held ++ ts) rest := by
  -- Groups hold commas of their own, but these are passed over with the group.
  generalize hcommas : false = commas at h
  induction h generalizing held rest with
  | nil => simp
  | @cons _ t ts hangle hcomma hts ih =>
    subst hcommas
    have hno : t.isSymbol "," = false := isSymbol_eq_false (hcomma.resolve_left Bool.false_ne_true)
    have hlength : angleLength (t :: (ts ++ rest)) = 0 := by
      rw [angleLength, List.head?_cons, Option.any_some, isSymbol_eq_false hangle.1,
        if_neg Bool.false_ne_true]
    rw [List.cons_append, splitTrees, hno, if_neg Bool.false_ne_true, hlength]
    simp only [Nat.zero_sub, List.take_zero, List.drop_zero]
    rw [ih _ _ rfl, List.append_assoc, List.singleton_append]
  | @angle _ opening closing inner ts hopening hclosing hinner hts ihinner ihts =>
    subst hcommas
    have hno : opening.isSymbol "," = false := isSymbol_eq_false (by simp [hopening])
    have hassoc : (inner ++ closing :: ts) ++ rest = (inner ++ [closing]) ++ (ts ++ rest) := by simp
    have hlength : inner.length + 2 - 1 = (inner ++ [closing]).length := by simp
    rw [List.cons_append, splitTrees, hno, if_neg Bool.false_ne_true, List.append_assoc,
      List.cons_append, angleLength_angle hopening hclosing hinner, ← List.cons_append,
      ← List.append_assoc, hassoc, hlength]
    dsimp only
    rw [List.take_left, List.drop_left, ihts _ _ rfl]
    simp

/-- Trees whose angle brackets close each other do so one behind the other. -/
theorem Angled.append (hts : Angled commas ts) (hrest : Angled commas rest) :
    Angled commas (ts ++ rest) := by
  induction hts with
  | nil => exact hrest
  | cons hangle hcomma _ ih => exact .cons hangle hcomma (ih hrest)
  | angle hopening hclosing hinner _ _ ih =>
    rw [List.cons_append, List.append_assoc, List.cons_append]
    exact .angle hopening hclosing hinner (ih hrest)

/-- Trees without angle brackets and commas have none that do not close each other. -/
theorem angled_of_forall (h : ∀ t ∈ ts, ∀ symbol ∈ symbol? t, symbol ∉ ["<", ">", ","]) :
    Angled false ts := by
  induction ts with
  | nil => exact .nil false
  | cons t ts ih =>
    rw [List.forall_mem_cons] at h
    have hne {symbol : String} (hs : symbol ∈ ["<", ">", ","]) : symbol? t ≠ some symbol :=
      fun ht => h.1 symbol ht hs
    exact .cons ⟨hne (by decide), hne (by decide)⟩ (.inr (hne (by decide))) (ih h.2)

/-! ## The list of components -/

/-- Of the trees of a modifier, only the signs of annotations and dots show symbols. -/
theorem ComponentModifier.symbol?_of_mem (m : ComponentModifier) (ht : t ∈ m.trees) :
    symbol? t = none ∨ symbol? t = some "@" ∨ symbol? t = some "." := by
  cases m with
  | word u h =>
    obtain rfl := List.mem_singleton.mp ht
    exact .inl (symbol?_of_word (word?_of_isWordIn h))
  | annotated mark name more arguments hmark hname hmore harguments =>
    have hnamed {u : TokenTree} (h : u.name?.isSome = true) : symbol? u = none :=
      symbol?_of_word (word?_of_name h)
    simp only [trees, List.mem_cons, List.mem_append, List.mem_flatMap, Option.mem_toList,
      List.not_mem_nil, or_false] at ht
    rcases ht with rfl | rfl | ⟨pair, hpair, rfl | rfl⟩ | harg
    · exact .inr (.inl hmark)
    · exact .inl (hnamed hname.1)
    · exact .inr (.inr (hmore pair hpair).1)
    · exact .inl (hnamed (hmore pair hpair).2)
    · exact .inl (symbol?_of_group (harguments t harg))

namespace Component

/-- The name of a component shows no symbol. -/
theorem symbol?_nameTree (c : Component) : symbol? c.nameTree = none :=
  symbol?_of_word (word?_of_name (by simp [c.named]))

/-- The dimensions of a component show no symbols. -/
theorem symbol?_of_mem_dimensions (ht : t ∈ c.dimensions) : symbol? t = none :=
  symbol?_of_group (c.square t ht)

/-- The type of a component shows no symbols but those of types. -/
theorem symbol?_of_mem_type (ht : t ∈ c.type) (hs : symbol? t = some symbol) :
    symbol ∈ "<" :: ">" :: typeSymbols := by
  rcases c.parts t ht with h | h | h
  · exact symbol?_of_isTypePart h hs
  · rw [symbol?_of_group h] at hs
    cases hs
  · rw [symbol?_of_group h] at hs
    cases hs

/-- The angle brackets of a component close each other. -/
theorem angled_trees (c : Component) : Angled false c.trees := by
  have hmodifiers : Angled false (c.modifiers.flatMap ComponentModifier.trees) := by
    refine angled_of_forall fun t ht symbol hs => ?_
    obtain ⟨m, -, ht⟩ := List.mem_flatMap.mp ht
    rcases m.symbol?_of_mem ht with h | h | h
    · simp [h] at hs
    · obtain rfl := Option.some.inj (h.symm.trans hs)
      decide
    · obtain rfl := Option.some.inj (h.symm.trans hs)
      decide
  have hend : Angled false (c.ellipsis.toList ++ c.nameTree :: c.dimensions) := by
    refine angled_of_forall fun t ht symbol hs => ?_
    rcases List.mem_append.mp ht with ht | ht
    · obtain rfl := Option.some.inj ((c.dots t (Option.mem_toList.mp ht)).symm.trans hs)
      decide
    · have hnone : symbol? t = none := by
        rcases List.mem_cons.mp ht with rfl | ht
        · exact c.symbol?_nameTree
        · exact symbol?_of_mem_dimensions ht
      simp [hnone] at hs
  exact hmodifiers.append (c.angled.append hend)

/-- The dots of a component tell its arity. -/
theorem isVariable_trees (c : Component) : Java.isVariable c.trees = c.isVariable := by
  have hany {l : List TokenTree} (h : ∀ t ∈ l, symbol? t ≠ some "...") :
      l.any (isSymbol "...") = false :=
    List.any_eq_false.mpr fun t ht => mt isSymbol_iff.mp (h t ht)
  have hmodifiers : (c.modifiers.flatMap ComponentModifier.trees).any (isSymbol "...") = false := by
    refine hany fun t ht => ?_
    obtain ⟨m, -, ht⟩ := List.mem_flatMap.mp ht
    rcases m.symbol?_of_mem ht with h | h | h <;> simp [h]
  have htype : c.type.any (isSymbol "...") = false :=
    hany fun t ht h => absurd (symbol?_of_mem_type ht h) (by decide)
  have hend : (c.nameTree :: c.dimensions).any (isSymbol "...") = false := by
    refine hany fun t ht => ?_
    rcases List.mem_cons.mp ht with rfl | ht
    · simp [c.symbol?_nameTree]
    · simp [symbol?_of_mem_dimensions ht]
  have hellipsis : c.ellipsis.toList.any (isSymbol "...") = c.ellipsis.isSome := by
    cases h : c.ellipsis with
    | none => rfl
    | some t => simpa using isSymbol_iff.mpr (c.dots t h)
  rw [Java.isVariable, trees, List.any_append, List.any_append, List.any_append, hmodifiers, htype,
    hellipsis, hend, Bool.false_or, Bool.false_or, Bool.or_false, isVariable]

end Component

/-- A list of components is cut into the components. -/
theorem splitCommas_listed (h : Listed cs ts) : splitCommas ts = cs.map Component.trees := by
  have hkept (c : Component) : c.trees.isEmpty = false := by simp [Component.trees]
  have hend (c : Component) :
      splitTrees (isSymbol ",") angleLength [] c.trees = [c.trees] := by
    simpa [splitTrees] using splitTrees_append c.angled_trees [] []
  rw [splitCommas]
  induction h with
  | nil => simp [splitTrees]
  | single c => simp [hend, hkept]
  | cons c hcomma hts ih =>
    rw [splitTrees_append c.angled_trees, splitTrees, isSymbol_iff.mpr hcomma, if_pos rfl,
      List.nil_append, List.filter_cons_of_pos (by simp [hkept]), ih, List.map_cons (a := c)]

/-! ## One component -/

/-- No annotation goes on with these trees. -/
def Fresh (ts : List TokenTree) : Prop := ∀ t ∈ ts.head?, symbol? t ≠ some "." ∧ t.isParens = false

/-- A word is no group in parentheses. -/
theorem isParens_of_word (h : t.word?.isSome = true) : t.isParens = false := by
  cases t with
  | leaf => rfl
  | group => cases h

/-- A symbol is no group in parentheses. -/
theorem isParens_of_symbol (h : symbol? t = some symbol) : t.isParens = false := by
  cases t with
  | leaf => rfl
  | group => cases h

/-- A symbol is no word. -/
theorem word?_of_symbol (h : symbol? t = some symbol) : t.word? = none := by
  by_contra hword
  rw [symbol?_of_word (Option.isSome_iff_ne_none.mpr hword)] at h
  cases h

/-- No annotation goes on with a word. -/
theorem fresh_of_word (h : t.word?.isSome = true) (ts : List TokenTree) : Fresh (t :: ts) := by
  intro u hu
  obtain rfl := Option.some.inj hu
  exact ⟨by simp [symbol?_of_word h], isParens_of_word h⟩

/-- No annotation goes on with a modifier. -/
theorem ComponentModifier.fresh_append (m : ComponentModifier) (ts : List TokenTree) :
    Fresh (m.trees ++ ts) := by
  cases m with
  | word t h => exact fresh_of_word (word?_of_isWordIn h) ts
  | annotated mark name more arguments hmark =>
    intro t ht
    obtain rfl : mark = t := Option.some.inj ht
    exact ⟨by simp [hmark], isParens_of_symbol hmark⟩

/-- A name with dots is as long as its names and dots, when no dot follows. -/
theorem qualifiedLength_append {name : TokenTree} (hname : name.name?.isSome = true)
    {more : List (TokenTree × TokenTree)}
    (hmore : ∀ pair ∈ more, symbol? pair.1 = some "." ∧ pair.2.name?.isSome = true)
    (hrest : ∀ t ∈ rest.head?, symbol? t ≠ some ".") :
    qualifiedLength (name :: (more.flatMap (fun pair => [pair.1, pair.2]) ++ rest)) =
      1 + 2 * more.length := by
  induction more generalizing name with
  | nil =>
    cases rest with
    | nil => simp [qualifiedLength, hname]
    | cons dot rest =>
      have hdot : dot.isSymbol "." = false := isSymbol_eq_false (hrest dot rfl)
      have hsome : name.name?.isNone = false := by simpa using hname
      simp [qualifiedLength, hsome, hdot]
  | cons pair more ih =>
    rw [List.forall_mem_cons] at hmore
    have hsome : name.name?.isNone = false := by simpa using hname
    have hdot : pair.1.isSymbol "." = true := isSymbol_iff.mpr hmore.1.1
    have hcons : name :: ((pair :: more).flatMap (fun pair => [pair.1, pair.2]) ++ rest) =
        name :: pair.1 :: (pair.2 :: (more.flatMap (fun pair => [pair.1, pair.2]) ++ rest)) := rfl
    rw [hcons, qualifiedLength, hsome, if_neg Bool.false_ne_true, hdot, List.head?_cons,
      Option.any_some, hmore.1.2, Bool.and_true, if_pos rfl, ih hmore.1.2 hmore.2, List.length_cons]
    omega

/-- What a list of trees begins with decides how long its first modifier is. -/
theorem modifierLength_cons (t : TokenTree) (ts : List TokenTree) :
    modifierLength (t :: ts) =
      if t.isWordIn modifierWords then 1
      else if t.isWord "non" then
        match ts with
        | dash :: word :: _ => if dash.isSymbol "-" && word.isWord "sealed" then 3 else 0
        | _ => 0
      else annotatedLength (t :: ts) := rfl

/-- A modifier is as long as its trees, when no annotation goes on behind it. -/
theorem ComponentModifier.modifierLength_append (m : ComponentModifier) (hrest : Fresh rest) :
    modifierLength (m.trees ++ rest) = m.trees.length := by
  cases m with
  | word t h => simp [trees, modifierLength, h]
  | annotated mark name more arguments hmark hname hmore harguments =>
    have hmarkword : mark.word? = none := word?_of_symbol hmark
    have hbehind : ∀ t ∈ (arguments.toList ++ rest).head?, symbol? t ≠ some "." := by
      intro t ht
      cases arguments with
      | none => exact (hrest t ht).1
      | some u =>
        obtain rfl : u = t := Option.some.inj ht
        simp [symbol?_of_group (harguments u rfl)]
    have hparens : (if (arguments.toList ++ rest).head?.any isParens then 1 else 0) =
        arguments.toList.length := by
      cases arguments with
      | some u => simp [harguments u rfl]
      | none =>
        cases rest with
        | nil => rfl
        | cons t rest => simp [(hrest t rfl).2]
    have hpairs : (more.flatMap fun pair => [pair.1, pair.2]).length = 2 * more.length := by
      simp [List.length_flatMap, Nat.mul_comm]
    have hqualified := qualifiedLength_append hname.1 hmore hbehind
    have hdrop : (name :: (more.flatMap (fun pair => [pair.1, pair.2]) ++
        (arguments.toList ++ rest))).drop (1 + 2 * more.length) = arguments.toList ++ rest := by
      rw [Nat.add_comm, List.drop_succ_cons, ← hpairs, List.drop_left]
    have hannotated : annotatedLength ((annotated mark name more arguments hmark hname hmore
        harguments).trees ++ rest) = 1 + (1 + 2 * more.length) + arguments.toList.length := by
      rw [trees, List.cons_append, List.cons_append, List.append_assoc, annotatedLength,
        isSymbol_iff.mpr hmark, List.head?_cons, Option.any_some, hname.2, hqualified]
      simp only [Bool.not_false, Bool.and_true, if_true]
      split
      · omega
      · rw [hdrop, hparens]
    have hwords : mark.isWordIn modifierWords = false ∧ mark.isWord "non" = false := by
      simp [isWordIn, isWord, hmarkword]
    have hlength : (annotated mark name more arguments hmark hname hmore harguments).trees.length =
        1 + (1 + 2 * more.length) + arguments.toList.length := by
      rw [trees, List.length_cons, List.length_cons, List.length_append, hpairs]
      omega
    rw [hlength, ← hannotated, trees, List.cons_append, modifierLength_cons, hwords.1, hwords.2,
      if_neg Bool.false_ne_true, if_neg Bool.false_ne_true]

/-- A span in front of others counts by its length. -/
theorem repeatedLength_append {step : List TokenTree → Nat} {front : List TokenTree}
    (hne : front ≠ []) (h : step (front ++ rest) = front.length) :
    repeatedLength step (front ++ rest) = front.length + repeatedLength step rest := by
  obtain ⟨t, ts, rfl⟩ := List.exists_cons_of_ne_nil hne
  rw [List.cons_append] at h ⊢
  rw [repeatedLength, h, List.length_cons]
  dsimp only
  rw [List.drop_left]

/-- Modifiers are as long as their trees, when none follows them. -/
theorem modifiersLength_append (modifiers : List ComponentModifier) (hrest : Fresh rest)
    (hend : modifierLength rest = 0) :
    modifiersLength (modifiers.flatMap ComponentModifier.trees ++ rest) =
      (modifiers.flatMap ComponentModifier.trees).length := by
  have hfresh (ms : List ComponentModifier) :
      Fresh (ms.flatMap ComponentModifier.trees ++ rest) := by
    cases ms with
    | nil => exact hrest
    | cons m ms =>
      rw [List.flatMap_cons, List.append_assoc]
      exact m.fresh_append _
  have hne (m : ComponentModifier) : m.trees ≠ [] := by
    cases m <;> simp [ComponentModifier.trees]
  rw [modifiersLength]
  induction modifiers with
  | nil =>
    cases rest with
    | nil => simp [repeatedLength]
    | cons t ts => simp [repeatedLength, hend]
  | cons m ms ih =>
    rw [List.flatMap_cons, List.append_assoc,
      repeatedLength_append (hne m) (m.modifierLength_append (hfresh ms)), ih, List.length_append]

namespace Component

/-- What stands behind the modifiers of a component. -/
def declared (c : Component) : List TokenTree :=
  c.type ++ (c.ellipsis.toList ++ c.nameTree :: c.dimensions)

/-- No annotation goes on with what a component declares. -/
theorem fresh_declared (c : Component) : Fresh c.declared := by
  obtain ⟨t, ht, hname, -⟩ := c.first
  obtain ⟨ts, hts⟩ := List.head?_eq_some_iff.mp ht
  rw [declared, hts]
  exact fresh_of_word (word?_of_name hname) _

/-- No dash stands in a component. -/
theorem symbol?_ne_dash (c : Component) : ∀ t ∈ c.declared, symbol? t ≠ some "-" := by
  intro t ht hdash
  rcases List.mem_append.mp ht with ht | ht
  · exact absurd (symbol?_of_mem_type ht hdash) (by decide)
  rcases List.mem_append.mp ht with ht | ht
  · rw [c.dots t (Option.mem_toList.mp ht)] at hdash
    exact absurd hdash (by decide)
  rcases List.mem_cons.mp ht with rfl | ht
  · rw [c.symbol?_nameTree] at hdash
    cases hdash
  · rw [symbol?_of_mem_dimensions ht] at hdash
    cases hdash

/-- What a component declares does not begin with a modifier. -/
theorem modifierLength_declared (c : Component) : modifierLength c.declared = 0 := by
  obtain ⟨t, ht, hname, hword⟩ := c.first
  obtain ⟨ts, hts⟩ := List.head?_eq_some_iff.mp ht
  have hdeclared : c.declared = t :: (ts ++ (c.ellipsis.toList ++ c.nameTree :: c.dimensions)) := by
    rw [declared, hts, List.cons_append]
  have hdash := c.symbol?_ne_dash
  rw [hdeclared] at hdash ⊢
  have hmark : t.isSymbol "@" = false :=
    isSymbol_eq_false (by simp [symbol?_of_word (word?_of_name hname)])
  rw [modifierLength_cons, hword, if_neg Bool.false_ne_true]
  split
  · split
    · next dash word more heq =>
      have hno : dash.isSymbol "-" = false :=
        isSymbol_eq_false (hdash dash (by simp [heq]))
      simp [hno]
    · rfl
  · simp [annotatedLength, hmark]

/-- A parameter of fixed arity. -/
def parameter (c : Component) : ParameterText where
  name := c.name
  type := text c.type ++ text c.dimensions

/-- A component that is not variable is read as a parameter. -/
theorem fixedParameter?_trees (c : Component) (h : c.isVariable = false) :
    fixedParameter? c.trees = some c.parameter := by
  have hnone : c.ellipsis.toList = [] := by simpa [isVariable] using h
  have hdrop : c.trees.drop (modifiersLength c.trees) = c.type ++ c.nameTree :: c.dimensions := by
    have htrees : c.trees = c.modifiers.flatMap ComponentModifier.trees ++ c.declared := rfl
    rw [htrees, modifiersLength_append _ c.fresh_declared c.modifierLength_declared, List.drop_left,
      declared, hnone, List.nil_append]
  have hsquare : c.nameTree.isSquare = false := by
    cases hname : c.nameTree with
    | leaf t => rfl
    | group =>
      have := c.named
      simp [hname, name?, word?] at this
  have hreverse : (c.type ++ c.nameTree :: c.dimensions).reverse =
      c.dimensions.reverse ++ c.nameTree :: c.type.reverse := by simp
  have hdimensions : ∀ t ∈ c.dimensions.reverse, t.isSquare = true :=
    fun t ht => c.square t (List.mem_reverse.mp ht)
  have htake : (c.dimensions.reverse ++ c.nameTree :: c.type.reverse).takeWhile isSquare =
      c.dimensions.reverse := by
    rw [List.takeWhile_append_of_pos hdimensions, List.takeWhile_cons_of_neg (by simp [hsquare]),
      List.append_nil]
  have hsplit : splitName? (c.type ++ c.nameTree :: c.dimensions) =
      some (c.type, c.name, c.dimensions) := by
    rw [splitName?, hreverse, htake, List.drop_left]
    simp [c.named]
  have htype : c.type ≠ [] := by
    obtain ⟨t, ht, -⟩ := c.first
    exact List.ne_nil_of_mem (List.mem_of_head? ht)
  rw [fixedParameter?, hdrop, hsplit]
  simp [htype, c.notReceiver, parameter]

end Component

/-- The components of fixed arity are found. -/
theorem recordComponents_listed (h : Listed cs ts) :
    recordComponents ts = (cs.filter fun c => !c.isVariable).map Component.parameter := by
  rw [recordComponents, splitCommas_listed h, List.filter_map, List.filterMap_map]
  have hvariable : ((fun piece => !isVariable piece) ∘ Component.trees) =
      fun c : Component => !c.isVariable := by
    funext c
    simp only [Function.comp_apply, c.isVariable_trees]
  rw [hvariable, ← List.filterMap_eq_map]
  refine List.filterMap_congr fun c hc => ?_
  exact c.fixedParameter?_trees (by simpa using (List.mem_filter.mp hc).2)

end ClassGraph.Source.Java
