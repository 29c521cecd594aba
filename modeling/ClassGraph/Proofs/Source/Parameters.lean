import ClassGraph.Instantiation.Declared
import ClassGraph.Proofs.Source.Annotation
import ClassGraph.Proofs.Source.Inference
import ClassGraph.Proofs.Source.ParameterSyntax

/-!
# Parameter lists

The text of a parameter list is cut at its commas outside of brackets, and a default value is cut
with the rest. The comma behind a parameter ends it when the brackets in front of it close each
other as they are counted (`ValueParameter.Closes`); if they do not, the list goes on in the default
value (`merged`). Behind a comma in a default value a parameter is found that nobody declared
(`ValueParameter.strays`). `addFunction_parameters` says that this is all that happens, for every
list and all default values: the parameters are those declared, in order, as long as each of them
closes and none goes astray.
-/

namespace ClassGraph.Source.Kotlin

open Text TypeSyntax

/-- The parameters between the commas of a text. -/
def foundIn (pieces : List (List Char)) : List ParameterText :=
  pieces.filterMap fun piece => (parameter? (trim piece)).map ParameterText.trimmed

/-- The pieces of a text between its commas outside of brackets. -/
def piecesOf (s : List Char) : List (List Char) :=
  (Text.pieces ',' 0 none s).1 :: (Text.pieces ',' 0 none s).2

namespace ValueParameter

/-- The brackets in the text of a parameter close each other as they are counted. -/
def Closes (p : ValueParameter) : Prop := depthThrough none 0 p.text = 0

instance (p : ValueParameter) : Decidable p.Closes :=
  inferInstanceAs (Decidable (depthThrough none 0 p.text = 0))

/-- What is found behind the commas in the default value of a parameter. -/
def strays (p : ValueParameter) : List ParameterText := foundIn (piecesOf p.text).tail

/-- A parameter whose default value goes on behind a comma. -/
def extend (p : ValueParameter) (t : List Char) : ValueParameter :=
  { p with default := some (p.default.getD [] ++ ',' :: t) }

end ValueParameter

/-- A parameter and those behind it, with `last` behind the comma that ends the list: where a
parameter does not close, what stands behind its comma belongs to its default value. -/
def mergedFrom (last : Option Blanks) (p : ValueParameter) :
    List ValueParameter → List ValueParameter
  | [] => [last.elim p fun w => if p.Closes then p else p.extend w.1]
  | q :: ps =>
    if p.Closes then p :: mergedFrom last q ps else mergedFrom last (p.extend q.text) ps

/-- The parameters of a list as they are cut. -/
def merged (last : Option Blanks) : List ValueParameter → List ValueParameter
  | [] => []
  | p :: ps => mergedFrom last p ps

/-- The text of parameters with commas between them, and perhaps one behind them. -/
def listText (ps : List ValueParameter) (last : Option Blanks) : List Char :=
  join [','] (ps.map ValueParameter.text ++ last.toList.map (·.1))

variable {p q : ValueParameter} {ps : List ValueParameter} {last : Option Blanks}
  {s t w : List Char}

/-! ## One parameter -/

/-- The parameters behind a comma outside of brackets are found behind those in front of it. -/
theorem foundIn_piecesOf_append (h : depthThrough none 0 s = 0) (t : List Char) :
    foundIn (piecesOf (s ++ ',' :: t)) = foundIn (piecesOf s) ++ foundIn (piecesOf t) := by
  have hpieces : piecesOf (s ++ ',' :: t) = piecesOf s ++ piecesOf t := by
    rw [piecesOf, pieces_append_comma h]
    rfl
  rw [hpieces, foundIn, List.filterMap_append, foundIn, foundIn]

/-- No parameter is found in blanks. -/
theorem foundIn_piecesOf_blank (hw : Blank w) : foundIn (piecesOf w) = [] := by
  have hpunctuation : ∀ c ∈ ['<', '(', '[', '>', ')', ']', ','], isSpace c = false :=
    forall_mem_of_all (by decide)
  have hnested : Nested w := nested_of_forall fun c hc hmem =>
    hw.notMem (hpunctuation c hmem) hc
  have hpieces := pieces_append (hnested 0 none (by omega) (apart_of_ne (by simp) w)).1 []
  rw [List.append_nil] at hpieces
  have hnone : parameter? [] = none := rfl
  rw [piecesOf, hpieces, foundIn]
  simp [Text.pieces, trim_eq_nil_iff.mpr hw, hnone]

namespace ValueParameter

/-- The head of a parameter has no comma outside of its brackets, which close each other. -/
theorem depthThrough_head (p : ValueParameter) :
    Unsplit ',' none 0 p.head ∧ depthThrough none 0 p.head = 0 :=
  p.bracketed_head.nested 0 none (by omega) (apart_of_ne (by simp) _)

/-- The brackets of a parameter without a default value close each other. -/
theorem closes_of_none (h : p.default = none) : p.Closes := by
  rw [Closes, text, h, Option.elim_none, List.append_nil, p.depthThrough_head.2]

/-- A default value that goes on behind a comma is written so. -/
theorem text_extend (h : ¬ p.Closes) (t : List Char) : (p.extend t).text = p.text ++ ',' :: t := by
  cases hdefault : p.default with
  | none => exact absurd (closes_of_none hdefault) h
  | some value => simp [text, extend, head, label, hdefault]

/-- What is found in the text of a parameter: the parameter, and what goes astray. -/
theorem foundIn_text (p : ValueParameter) : foundIn (piecesOf p.text) = p.declared :: p.strays := by
  have hfirst : (parameter? (trim (Text.pieces ',' 0 none p.text).1)).map ParameterText.trimmed =
      some p.declared := by
    obtain ⟨hunsplit, hthrough⟩ := p.depthThrough_head
    rw [text, pieces_append hunsplit, hthrough]
    cases p.default with
    | none => simpa [Text.pieces] using p.parameter?_head
    | some value =>
      have hassign (previous : Option Char) : depthAfter false previous 0 '=' = 0 := rfl
      simp only [Option.elim_some, Text.pieces, hassign]
      exact p.parameter?_default _
  rw [strays, piecesOf, List.tail_cons]
  simp only [foundIn, List.filterMap_cons, hfirst]

end ValueParameter

/-! ## The list -/

/-- Joined parts are a first one and the others, and also those in which the first two are one. -/
theorem join_cons_cons (a b : List Char) (parts : List (List Char)) :
    join [','] (a :: b :: parts) = a ++ ',' :: join [','] (b :: parts) ∧
      join [','] (a :: b :: parts) = join [','] ((a ++ ',' :: b) :: parts) := by
  cases parts <;> simp [join]

/-- The parameters in a list are those that it declares once those are merged whose brackets do not
close each other, each with what is found in its default value. -/
theorem foundIn_mergedFrom (last : Option Blanks) (p : ValueParameter) (ps : List ValueParameter) :
    foundIn (piecesOf (listText (p :: ps) last)) =
      (mergedFrom last p ps).flatMap fun p => p.declared :: p.strays := by
  -- The first parameter is generalized: one that does not close grows by those behind it.
  induction ps generalizing p with
  | nil =>
    cases last with
    | none => simp [listText, join, mergedFrom, p.foundIn_text]
    | some w =>
      have htext : listText [p] (some w) = p.text ++ ',' :: w.1 := by simp [listText, join]
      rw [htext, mergedFrom, Option.elim_some, List.flatMap_singleton]
      by_cases hcloses : p.Closes
      · rw [if_pos hcloses, foundIn_piecesOf_append hcloses, foundIn_piecesOf_blank w.2,
          List.append_nil, p.foundIn_text]
      · rw [if_neg hcloses, ← p.text_extend hcloses, ValueParameter.foundIn_text]
  | cons q ps ih =>
    obtain ⟨hcut, hmerged⟩ := join_cons_cons p.text q.text
      (ps.map ValueParameter.text ++ last.toList.map (·.1))
    rw [mergedFrom]
    by_cases hcloses : p.Closes
    · have htext : listText (p :: q :: ps) last = p.text ++ ',' :: listText (q :: ps) last := hcut
      rw [if_pos hcloses, htext, foundIn_piecesOf_append hcloses, p.foundIn_text, ih,
        List.flatMap_cons]
    · have htext : listText (p :: q :: ps) last = listText (p.extend q.text :: ps) last := by
        rw [listText, List.map_cons, List.map_cons, List.cons_append, List.cons_append, hmerged,
          ← p.text_extend hcloses]
        rfl
      rw [if_neg hcloses, htext, ih]

/-- What is found in a list of parameters: those of the list as it is cut, each with what goes
astray behind it. -/
theorem foundIn_listText (last : Option Blanks) (ps : List ValueParameter) :
    foundIn (piecesOf (listText ps last)) =
      (merged last ps).flatMap fun p => p.declared :: p.strays := by
  cases ps with
  | cons p ps => exact foundIn_mergedFrom last p ps
  | nil =>
    cases last with
    | none => exact foundIn_piecesOf_blank blank_nil
    | some w => exact foundIn_piecesOf_blank w.2

/-- The parameters of a list in parentheses are those found in its text. -/
theorem parametersOf_enclosed (s : List Char) :
    (parametersOf ('(' :: s ++ [')'])).map ParameterText.trimmed = foundIn (piecesOf s) := by
  have hopen : ['('].isPrefixOf? ('(' :: s ++ [')']) = some (s ++ [')']) := rfl
  have hclose : [')'].isSuffixOf? (s ++ [')']) = some s :=
    List.isSuffixOf?_eq_some_iff_append_eq.mpr rfl
  have hnone : parameter? [] = none := rfl
  -- A last piece that is blank does not count, and no parameter would be found in it.
  have hlast (all : List (List Char)) :
      (if all.getLast? = some [] then all.dropLast else all).filterMap parameter? =
        all.filterMap parameter? := by
    split
    · next h =>
      obtain ⟨front, rfl⟩ := List.getLast?_eq_some_iff.mp h
      simp [hnone]
    · rfl
  have hinner : ((['('].isPrefixOf? ('(' :: s ++ [')'])).bind fun rest =>
      [')'].isSuffixOf? rest) = some s := by
    rw [hopen, Option.bind_some, hclose]
  rw [parametersOf]
  simp only [Option.bind_eq_bind, hinner, Option.getD_some, splitTopLevel, hlast]
  rw [List.filterMap_map, List.map_filterMap]
  rfl

/-! ## What is declared -/

/-- The parameters of a list as it is cut are declared ones, in their order. -/
theorem sublist_merged (last : Option Blanks) (ps : List ValueParameter) :
    ((merged last ps).map ValueParameter.declared).Sublist (ps.map ValueParameter.declared) := by
  -- A longer default value declares nothing else, so a merge drops the next one.
  have hextend (p : ValueParameter) (t : List Char) : (p.extend t).declared = p.declared := rfl
  have hfrom (p : ValueParameter) (ps : List ValueParameter) :
      ((mergedFrom last p ps).map ValueParameter.declared).Sublist
        ((p :: ps).map ValueParameter.declared) := by
    induction ps generalizing p with
    | nil =>
      cases last with
      | none => exact List.Sublist.refl _
      | some w =>
        rw [mergedFrom, Option.elim_some]
        split <;> exact List.Sublist.refl _
    | cons q ps ih =>
      rw [mergedFrom]
      split
      · exact (ih q).cons_cons p.declared
      · refine (ih (p.extend q.text)).trans ?_
        rw [List.map_cons, hextend]
        exact (List.sublist_cons_self q.declared _).cons_cons p.declared
  cases ps with
  | nil => exact List.Sublist.refl _
  | cons p ps => exact hfrom p ps

/-- A list in which all parameters close is cut as it is declared. -/
theorem merged_eq_self (last : Option Blanks) (h : ∀ p ∈ ps, p.Closes) : merged last ps = ps := by
  have hfrom (p : ValueParameter) (ps : List ValueParameter) (h : ∀ q ∈ p :: ps, q.Closes) :
      mergedFrom last p ps = p :: ps := by
    induction ps generalizing p with
    | nil => cases last <;> simp [mergedFrom, h p List.mem_cons_self]
    | cons q ps ih =>
      rw [List.forall_mem_cons] at h
      rw [mergedFrom, if_pos h.1, ih q h.2]
  cases ps with
  | nil => rfl
  | cons p ps => exact hfrom p ps h

/-- A default value in which brackets and commas are used as in types does no harm. -/
theorem ValueParameter.closes_of_bracketed (h : ∀ value ∈ p.default, Bracketed false value) :
    p.Closes ∧ p.strays = [] := by
  have hnested : Nested p.text := by
    rw [text]
    cases hdefault : p.default with
    | none => simpa using p.bracketed_head.nested
    | some value =>
      exact (p.bracketed_head.append (.plain (by decide) (h value hdefault))).nested
  obtain ⟨hunsplit, hthrough⟩ := hnested 0 none (by omega) (apart_of_ne (by simp) _)
  have hpieces := pieces_append hunsplit []
  rw [List.append_nil] at hpieces
  refine ⟨hthrough, ?_⟩
  rw [strays, piecesOf, hpieces]
  rfl

/-- Lists with a first element each are as long as these elements and the rests of the lists. -/
theorem length_flatMap_cons {α β : Type} (f : α → β) (g : α → List β) (as : List α) :
    (as.flatMap fun a => f a :: g a).length = as.length + (as.flatMap g).length := by
  induction as with
  | nil => rfl
  | cons a as ih =>
    simp only [List.flatMap_cons, List.length_append, List.length_cons, ih]
    omega

/-- Blanks around a type make no difference for its display. -/
theorem ParameterText.resolved_trimmed (scope : TypeScope) (p : ParameterText) :
    p.trimmed.resolved scope = p.resolved scope := by
  rw [resolved, resolved, trimmed, resolve_trim]

/-- The method of a function has the parameters of the list as it is cut, each with those that go
astray in its default value. Where all parameters close, these are the declared ones, and there are
as many of them as declared exactly when none goes astray. A default value in which brackets and
commas are used as in types lets its parameter close, and no other one go astray. -/
theorem addFunction_parameters (scope : TypeScope) (c : Classifier)
    (modifiers typeParameters : List TokenTree) (name : String) (parameters : TokenTree)
    (result : List Char) (hasBody : Bool)
    (hwritten : TokenTree.text [parameters] = '(' :: listText ps last ++ [')']) :
    let shown := ParameterText.resolved (signatureScope scope typeParameters)
    ∃ m, (addFunction scope c modifiers typeParameters name parameters result hasBody).methods =
        c.methods ++ [m] ∧ m.name = name ∧
      (m.parameters = ((merged last ps).flatMap fun p => p.declared :: p.strays).map shown ∧
        ((merged last ps).map ValueParameter.declared).Sublist
          (ps.map ValueParameter.declared)) ∧
      ((∀ p ∈ ps, p.Closes) →
        m.parameters = (ps.flatMap fun p => p.declared :: p.strays).map shown ∧
        (Declared.operation m = ⟨name, ps.length⟩ ↔ ∀ p ∈ ps, p.strays = [])) ∧
      ((∀ p ∈ ps, p.Closes ∧ p.strays = []) →
        m.parameters = ps.map fun p => shown p.declared) ∧
      ((∀ p ∈ ps, ∀ value ∈ p.default, Bracketed false value) →
        ∀ p ∈ ps, p.Closes ∧ p.strays = []) := by
  intro shown
  obtain ⟨m, relations, hadded, hname, hparameters⟩ :=
    exists_addFunction scope c modifiers typeParameters name parameters result hasBody
  -- The types found keep the blanks in front of `=`, which the reading of types passes over.
  have htrimmed : (parametersOf ('(' :: listText ps last ++ [')'])).map shown =
      ((parametersOf ('(' :: listText ps last ++ [')'])).map ParameterText.trimmed).map shown := by
    rw [List.map_map]
    exact List.map_congr_left fun p _ => (p.resolved_trimmed _).symm
  have hfound : m.parameters =
      ((merged last ps).flatMap fun p => p.declared :: p.strays).map shown := by
    rw [hparameters, hwritten, htrimmed, parametersOf_enclosed, foundIn_listText]
  refine ⟨m, by rw [hadded], hname, ⟨hfound, sublist_merged last ps⟩, fun hcloses => ?_,
    fun hlevel => ?_, fun hdefaults p hp => ValueParameter.closes_of_bracketed (hdefaults p hp)⟩
  · rw [merged_eq_self last hcloses] at hfound
    refine ⟨hfound, ?_⟩
    rw [Declared.operation, hname, hfound, List.length_map, length_flatMap_cons,
      ← List.flatMap_eq_nil_iff, ← List.length_eq_zero_iff, Operation.mk.injEq, eq_self, true_and]
    exact Nat.add_eq_left
  · rw [merged_eq_self last fun p hp => (hlevel p hp).1] at hfound
    have hnone : (ps.flatMap fun p => p.declared :: p.strays) = ps.map ValueParameter.declared := by
      rw [List.map_eq_flatMap]
      exact List.flatMap_congr fun p hp => by rw [(hlevel p hp).2]
    rw [hfound, hnone, List.map_map]
    rfl

/-! ## Two functions -/

/-- A token of a parameter list, with a blank in front of it or none. -/
def tokenTree (kind : TokenKind) (gap text : String) : TokenTree := .leaf ⟨gap, kind, text⟩

/-- Trees in parentheses. -/
def parentheses (trees : List TokenTree) : TokenTree :=
  .group ⟨"", .opener, "("⟩ trees (some ⟨"", .closer, ")"⟩)

/-- The parameter `vararg notes: String`. -/
def notesParameter : ValueParameter where
  front := ⟨[], blank_nil⟩
  modifiers := [(⟨varargWord, by decide, forall_mem_of_all (by decide)⟩, ClassGraph.oneBlank)]
  name := ⟨"notes".toList, by decide, forall_mem_of_all (by decide)⟩
  unmarked := by decide
  notModifier := by decide
  before := ⟨[], blank_nil⟩
  type := " String".toList
  bracketed := bracketed_of_forall (forall_mem_of_all (by decide))
  unassigned := by decide
  default := none

/-- The parameter `limit: Int = max(2, 3)`. -/
def limitParameter : ValueParameter where
  front := ⟨[' '], forall_mem_of_all (by decide)⟩
  modifiers := []
  name := ⟨"limit".toList, by decide, forall_mem_of_all (by decide)⟩
  unmarked := by decide
  notModifier := by decide
  before := ⟨[], blank_nil⟩
  type := " Int ".toList
  bracketed := bracketed_of_forall (forall_mem_of_all (by decide))
  unassigned := by decide
  default := some " max(2, 3)".toList

/-- The parameter `line: String` with a default value. -/
def lineParameter (value : List Char) : ValueParameter where
  front := ⟨[], blank_nil⟩
  modifiers := []
  name := ⟨"line".toList, by decide, forall_mem_of_all (by decide)⟩
  unmarked := by decide
  notModifier := by decide
  before := ⟨[], blank_nil⟩
  type := " String ".toList
  bracketed := bracketed_of_forall (forall_mem_of_all (by decide))
  unassigned := by decide
  default := some value

/-- The function `send(vararg notes: String, limit: Int = max(2, 3))` has its two parameters. -/
theorem addFunction_parameters_send :
    let ps := [notesParameter, limitParameter]
    let tree := parentheses [tokenTree .word "" "vararg", tokenTree .word " " "notes",
      tokenTree .symbol "" ":", tokenTree .word " " "String", tokenTree .symbol "" ",",
      tokenTree .word " " "limit", tokenTree .symbol "" ":", tokenTree .word " " "Int",
      tokenTree .symbol " " "=", tokenTree .word " " "max",
      parentheses [tokenTree .word "" "2", tokenTree .symbol "" ",", tokenTree .word " " "3"]]
    let added :=
      addFunction (typeScope {} []) { name := "Log", kind := .plain } [] [] "send" tree [] true
    TokenTree.text [tree] = '(' :: listText ps none ++ [')'] ∧
      (∀ p ∈ ps, p.Closes ∧ p.strays = []) ∧
      ∃ m, added.methods = [m] ∧ Declared.operation m = ⟨"send", 2⟩ ∧
        m.parameters = [⟨"notes", "Array<String>"⟩, ⟨"limit", "Int"⟩] := by
  intro ps tree added
  have hwritten : TokenTree.text [tree] = '(' :: listText ps none ++ [')'] := by decide +kernel
  have hlevel : ∀ p ∈ ps, p.Closes ∧ p.strays = [] := by decide +kernel
  obtain ⟨m, hmethods, hname, -, -, hparameters, -⟩ := addFunction_parameters (typeScope {} [])
    { name := "Log", kind := .plain } [] [] "send" tree [] true hwritten
  have hdeclared : m.parameters = [⟨"notes", "Array<String>"⟩, ⟨"limit", "Int"⟩] := by
    rw [hparameters hlevel]
    decide +kernel
  refine ⟨hwritten, hlevel, m, hmethods, ?_, hdeclared⟩
  rw [Declared.operation, hname, hdeclared]
  rfl

/-- The comma in the text of `write(line: String = "from: a, to: b")` makes a second parameter. -/
theorem addFunction_quoted :
    let tree := parentheses [tokenTree .word "" "line", tokenTree .symbol "" ":",
      tokenTree .word " " "String", tokenTree .symbol " " "=",
      tokenTree .literal " " "\"from: a, to: b\""]
    let added :=
      addFunction (typeScope {} []) { name := "Log", kind := .plain } [] [] "write" tree [] true
    TokenTree.text [tree] =
        '(' :: listText [lineParameter " \"from: a, to: b\"".toList] none ++ [')'] ∧
      added.methods.map Method.parameters = [[⟨"line", "String"⟩, ⟨"to", "b\""⟩]] := by
  decide +kernel

end ClassGraph.Source.Kotlin
