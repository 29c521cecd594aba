import ClassGraph.Proofs.Source.TypeReading
import ClassGraph.Proofs.Text.Words

/-!
# Annotations in type texts

Annotations in front of a type text are taken off before anything else, however many there are and
whatever stands in their argument lists (`withoutAnnotations_append`). This happens once, for the
whole text: an annotation in front of a type argument stays in the display of the type, and hides
what a container holds when it stands in front of the container's first argument
(`resolve_annotated_element`). In front of all other arguments it makes no difference to what the
type refers to. `resolve_annotated` says both. Blanks around a text make no difference at all
(`resolve_trim`).
-/

namespace ClassGraph.TypeSyntax

open Text TypeRef

/-- A text whose parentheses close each other. -/
inductive Balanced : List Char → Prop
  | nil : Balanced []
  | cons {c : Char} {s : List Char} (hc : c ≠ '(' ∧ c ≠ ')') (hs : Balanced s) : Balanced (c :: s)
  | group {s t : List Char} (hs : Balanced s) (ht : Balanced t) : Balanced ('(' :: s ++ ')' :: t)

/-- The argument list of an annotation, which may be missing. -/
inductive ArgumentList : List Char → Prop
  | none : ArgumentList []
  | some {s : List Char} (hs : Balanced s) : ArgumentList ('(' :: s ++ [')'])

/-- Annotations one behind the other, each with blanks behind it, and blanks in front of them. -/
inductive Annotations : List Char → Prop
  | nil : Annotations []
  | pad {w rest : List Char} (hw : Blank w) (hrest : Annotations rest) : Annotations (w ++ rest)
  | cons (name : List Char) {list w rest : List Char}
    (hname : ∀ c ∈ name, isAnnotationChar c = true)
    (hlist : ArgumentList list) (hne : w ≠ []) (hw : Blank w) (hrest : Annotations rest) :
    Annotations ('@' :: name ++ list ++ w ++ rest)

variable {scope : TypeScope} {settings : Extraction} {e : TypeExpr} {a f s t w : List Char}
  {c : Char}

/-! ## Annotations in front of a text -/

/-- The parentheses of a text without any close each other. -/
theorem balanced_of_forall (h : ∀ c ∈ s, c ≠ '(' ∧ c ≠ ')') : Balanced s := by
  induction s with
  | nil => exact .nil
  | cons c s ih =>
    rw [List.forall_mem_cons] at h
    exact .cons h.1 (ih h.2)

/-- A text whose parentheses close each other is passed over inside of parentheses. -/
theorem Balanced.afterParentheses_append (hs : Balanced s) {depth : Nat} (hdepth : 0 < depth)
    (t : List Char) : afterParentheses depth (s ++ t) = afterParentheses depth t := by
  induction hs generalizing depth t with
  | nil => rfl
  | cons hc _ ih =>
    rw [List.cons_append, afterParentheses, ih hdepth]
    · exact hc.1
    · exact hc.2
  | group _ _ ihs iht =>
    have hclose : ¬ depth + 1 ≤ 1 := by omega
    rw [List.cons_append, List.cons_append, List.append_assoc, afterParentheses,
      ihs (Nat.succ_pos depth), List.cons_append, afterParentheses, if_neg hclose,
      Nat.succ_sub_one, iht hdepth]

/-- A blank goes on no annotation. -/
theorem not_isAnnotationChar_of_isSpace (hc : isSpace c = true) : isAnnotationChar c = false := by
  have hplain : c ≠ '.' ∧ c ≠ ':' := by
    constructor <;> rintro rfl <;> cases hc
  simp [isAnnotationChar, not_isNameChar_of_isSpace hc, hplain]

/-- What follows an annotation begins with the blanks behind it. -/
theorem afterAnnotated_append {name list : List Char}
    (hname : ∀ c ∈ name, isAnnotationChar c = true) (hlist : ArgumentList list) (hne : w ≠ [])
    (hw : Blank w) (t : List Char) : afterAnnotated (name ++ list ++ w ++ t) = w ++ t := by
  have hdrop (r : List Char) (hr : ∀ c ∈ r.head?, isAnnotationChar c = false) :
      (name ++ r).dropWhile isAnnotationChar = r := by
    rw [List.dropWhile_append_of_pos hname]
    cases r with
    | nil => rfl
    | cons c r => exact List.dropWhile_cons_of_neg (by simp [hr c rfl])
  -- The first blank ends the name where there is no argument list.
  obtain ⟨b, w, rfl⟩ := List.exists_cons_of_ne_nil hne
  have hb : isSpace b = true := hw b List.mem_cons_self
  rw [List.append_assoc, List.append_assoc, afterAnnotated]
  cases hlist with
  | none =>
    have hparenthesis : b ≠ '(' := by
      rintro rfl
      cases hb
    rw [List.nil_append, hdrop _ fun c hc => by
      obtain rfl : b = c := Option.some.inj hc
      exact not_isAnnotationChar_of_isSpace hb]
    split
    · next r hr => exact absurd (List.cons.inj hr).1 hparenthesis
    · rfl
  | @some s hs =>
    rw [hdrop _ fun c hc => by
      obtain rfl : '(' = c := Option.some.inj hc
      decide]
    have hlist : '(' :: s ++ [')'] ++ (b :: w ++ t) = '(' :: (s ++ ')' :: (b :: w ++ t)) := by simp
    rw [hlist]
    show afterParentheses 1 _ = _
    rw [hs.afterParentheses_append Nat.one_pos, afterParentheses, if_pos le_rfl]

/-- Blanks in front of a text make no difference. -/
theorem withoutAnnotations_pad (hw : Blank w) (s : List Char) :
    withoutAnnotations (w ++ s) = withoutAnnotations s := by
  have hstart := trimStart_append_left hw s
  by_cases hat : ∃ t, trimStart s = '@' :: t
  · obtain ⟨t, ht⟩ := hat
    rw [withoutAnnotations_of_at ht, withoutAnnotations_of_at (hstart.trans ht)]
  · rw [not_exists] at hat
    rw [withoutAnnotations_of_ne hat, withoutAnnotations_of_ne fun t => hstart ▸ hat t, hstart]

/-- Annotations in front of a text are taken off. -/
theorem withoutAnnotations_append (ha : Annotations a) (s : List Char) :
    withoutAnnotations (a ++ s) = withoutAnnotations s := by
  induction ha with
  | nil => rfl
  | pad hw _ ih => rw [List.append_assoc, withoutAnnotations_pad hw, ih]
  | @cons name list w rest hname hlist hne hw _ ih =>
    have htext : '@' :: name ++ list ++ w ++ rest ++ s =
        '@' :: (name ++ list ++ w ++ (rest ++ s)) := by simp
    rw [htext, withoutAnnotations_of_at (trimStart_cons rfl _),
      afterAnnotated_append hname hlist hne hw, withoutAnnotations_pad hw, ih]

/-! ## Blanks around a text -/

/-- Behind blanks inside of parentheses there is nothing. -/
theorem afterParentheses_of_blank (depth : Nat) (hw : Blank w) : afterParentheses depth w = [] := by
  induction w with
  | nil => rfl
  | cons c w ih =>
    rw [Blank, List.forall_mem_cons] at hw
    rw [afterParentheses, ih hw.2]
    · rintro rfl
      exact absurd hw.1 (by decide)
    · rintro rfl
      exact absurd hw.1 (by decide)

/-- Blanks at the end of a text stay at the end of what is left behind the parentheses, as far as
they are left. -/
theorem exists_afterParentheses_append (depth : Nat) (s : List Char) (hw : Blank w) :
    ∃ w', Blank w' ∧ afterParentheses depth (s ++ w) = afterParentheses depth s ++ w' := by
  fun_induction afterParentheses depth s with
  | case1 depth => exact ⟨[], blank_nil, afterParentheses_of_blank depth hw⟩
  | case2 depth cs ih => exact ih
  | case3 depth cs hdepth =>
    exact ⟨w, hw, by rw [List.cons_append, afterParentheses, if_pos hdepth]⟩
  | case4 depth cs hdepth ih =>
    rw [List.cons_append, afterParentheses, if_neg hdepth]
    exact ih
  | case5 depth c cs hopen hclose ih =>
    rw [List.cons_append, afterParentheses]
    · exact ih
    · exact hopen
    · exact hclose

/-- Blanks at the end of a text stay at the end of what is left behind an annotation, as far as they
are left. -/
theorem exists_afterAnnotated_append (s : List Char) (hw : Blank w) :
    ∃ w', Blank w' ∧ afterAnnotated (s ++ w) = afterAnnotated s ++ w' := by
  have hstay : w.dropWhile isAnnotationChar = w := by
    cases w with
    | nil => rfl
    | cons c w =>
      exact List.dropWhile_cons_of_neg
        (by simp [not_isAnnotationChar_of_isSpace (hw c List.mem_cons_self)])
  have hdrop : (s ++ w).dropWhile isAnnotationChar = s.dropWhile isAnnotationChar ++ w := by
    rw [List.dropWhile_append]
    split
    · next h => rw [hstay, List.isEmpty_iff.mp h, List.nil_append]
    · rfl
  rw [afterAnnotated, afterAnnotated, hdrop]
  cases hrest : s.dropWhile isAnnotationChar with
  | nil =>
    refine ⟨w, hw, ?_⟩
    cases w with
    | nil => rfl
    | cons c w =>
      have hc : c ≠ '(' := by
        rintro rfl
        exact absurd (hw '(' List.mem_cons_self) (by decide)
      rw [List.nil_append]
      split
      · next h => exact absurd (List.cons.inj h).1 hc
      · rfl
  | cons c rest =>
    by_cases hc : c = '('
    · subst hc
      exact exists_afterParentheses_append 1 rest hw
    · refine ⟨w, hw, ?_⟩
      rw [List.cons_append]
      split
      · next h => exact absurd (List.cons.inj h).1 hc
      · split
        · next h => exact absurd (List.cons.inj h).1 hc
        · rfl

/-- Blanks behind a text stay behind it when its annotations are taken off. -/
theorem exists_withoutAnnotations_append (s : List Char) :
    ∀ {w : List Char}, Blank w →
      ∃ w', Blank w' ∧ withoutAnnotations (s ++ w) = withoutAnnotations s ++ w' := by
  induction s using withoutAnnotations.induct with
  | case1 s rest hstart ih =>
    intro w hw
    have hs : ¬ Blank s := mt trimStart_eq_nil_iff.mpr (by simp [hstart])
    have happend : trimStart (s ++ w) = '@' :: (rest ++ w) := by
      rw [trimStart_append_right hs, hstart, List.cons_append]
    obtain ⟨w', hw', hafter⟩ := exists_afterAnnotated_append rest hw
    rw [withoutAnnotations_of_at happend, withoutAnnotations_of_at hstart, hafter]
    exact ih hw'
  | case2 s hnone =>
    intro w hw
    by_cases hs : Blank s
    · have hboth : trimStart (s ++ w) = [] := trimStart_eq_nil_iff.mpr (hs.append hw)
      refine ⟨[], blank_nil, ?_⟩
      rw [withoutAnnotations_of_ne (by simp [hboth]), withoutAnnotations_of_ne hnone, hboth,
        trimStart_eq_nil_iff.mpr hs, List.append_nil]
    · have happend := trimStart_append_right hs w
      refine ⟨w, hw, ?_⟩
      rw [withoutAnnotations_of_ne hnone, ← happend]
      refine withoutAnnotations_of_ne fun rest hrest => ?_
      obtain ⟨c, t, hc⟩ := List.exists_cons_of_ne_nil (mt trimStart_eq_nil_iff.mp hs)
      rw [happend, hc, List.cons_append] at hrest
      exact hnone t (by rw [hc, (List.cons.inj hrest).1])

/-- Blanks around a text make no difference for its reading. -/
theorem resolve_trim (scope : TypeScope) (s : List Char) :
    resolve scope (trim s) = resolve scope s := by
  obtain ⟨w, w', hw, hw', hs⟩ := exists_trim s
  obtain ⟨w'', hw'', hafter⟩ := exists_withoutAnnotations_append (trim s) hw'
  have hdisplay : normalized (withoutAnnotations s) = normalized (withoutAnnotations (trim s)) := by
    conv_lhs => rw [hs]
    rw [List.append_assoc, withoutAnnotations_pad hw, hafter, normalized, words_append_right _ hw'',
      normalized]
  rw [resolve, resolve, hdisplay]

/-! ## Annotations in front of type arguments -/

/-- Annotations stand in front of type arguments, but not in front of what a container holds. All
brackets in their argument lists close each other, and no dash is in them. -/
def Spacing.annotated (settings : Extraction) : Spacing where
  separates := Spacing.plain.separates
  opens n f := Annotations f ∧ Inert 1 f ∧ (isCollection settings n.last = true → f = [])
  precedes f := Annotations f ∧ Inert 1 f

/-- A text without dashes whose brackets close each other has such a normal form. -/
theorem Inert.normalized {least : Int} (h : Inert least s) : Inert least (normalized s) :=
  ⟨keepsDepth_normalized h.1 h.2, mt (mem_normalized_iff rfl).mp h.2⟩

/-- Annotated types have the normal forms of their parts. -/
theorem Spacing.normalizes_annotated (settings : Extraction) :
    (Spacing.annotated settings).Normalizes settings where
  separates h := h
  opens h := ⟨h.2.1.normalized, fun hn => by
    rw [h.2.2 hn]
    exact blank_nil⟩
  precedes h := h.2.normalized

end ClassGraph.TypeSyntax

namespace ClassGraph

open Text TypeSyntax

/-- The reading of a type with annotations. In front of the whole type they make no difference at
all. In front of type arguments they make none to what the type refers to, as long as the argument
does not say what a container holds, and every character of them that is no blank stays in the
display. -/
theorem resolve_annotated (scope : TypeScope) (a : List Char) (ha : Annotations a) :
    (∀ s, TypeRef.resolve scope (a ++ s) = TypeRef.resolve scope s) ∧
      ∀ (e : TypeExpr) (plain s : List Char), e.Written plain →
        Spells (.annotated scope.settings) (.type e) s →
        (TypeRef.resolve scope (a ++ s)).target = (TypeRef.resolve scope plain).target ∧
          (TypeRef.resolve scope (a ++ s)).isCollection =
            (TypeRef.resolve scope plain).isCollection ∧
          (TypeRef.resolve scope (a ++ s)).display.toList.filter (!isSpace ·) =
            s.filter (!isSpace ·) := by
  have hfront (s : List Char) : TypeRef.resolve scope (a ++ s) = TypeRef.resolve scope s := by
    rw [TypeRef.resolve, TypeRef.resolve, withoutAnnotations_append ha]
  refine ⟨hfront, fun e plain s hplain hs => ?_⟩
  have hread := hs.resolve (Spacing.normalizes_annotated scope.settings)
  have hread' := hplain.resolve (Spacing.normalizes_plain scope.settings)
  rw [← hread', Prod.mk.injEq] at hread
  refine ⟨by rw [hfront, hread.1], by rw [hfront, hread.2], ?_⟩
  have hdisplay : (TypeRef.resolve scope s).display.toList =
      TypeRef.normalized (TypeRef.withoutAnnotations s) := String.toList_ofList
  rw [hfront, hdisplay, withoutAnnotations_of_opens hs.opens, TypeRef.normalized_trimStart,
    TypeRef.filter_normalized]

/-- A map from ships to ships. -/
def shipMap : TypeExpr := .generic mapName (.type (.name shipName)) [.type (.name shipName)]

/-- The second argument of a map may be annotated. -/
theorem resolve_annotated_map :
    Annotations "@NonNull ".toList ∧ shipMap.Written "Map<Ship, Ship>".toList ∧
      Spells (.annotated {}) (.type shipMap) "Map<Ship, @Size(max = 3) Ship>".toList ∧
        (TypeRef.resolve { language := .java, settings := {} }
          "@NonNull Map<Ship, @Size(max = 3) Ship>".toList).target = some "Ship" := by
  have hspace : Blank [' '] := blank_singleton
  have hfront : Annotations "@NonNull ".toList :=
    .cons "NonNull".toList (forall_mem_of_all (by decide)) .none (by decide) hspace .nil
  have hmap : Dotted mapName.qualifiers mapName.simple "Map".toList := .simple _ blank_nil blank_nil
  have hship : Dotted shipName.qualifiers shipName.simple "Ship".toList :=
    .simple _ blank_nil blank_nil
  have hplain : shipMap.Written "Map<Ship, Ship>".toList :=
    .generic (f := []) hmap rfl (.cons (f := []) (.type (.name hship)) rfl
      (.single (.type (.name (hship.append_left hspace)))))
  have hbalanced : Balanced "max = 3".toList := balanced_of_forall (forall_mem_of_all (by decide))
  have hsize : Annotations " @Size(max = 3) ".toList :=
    .pad hspace (.cons "Size".toList (forall_mem_of_all (by decide)) (.some hbalanced) (by decide)
      hspace .nil)
  have hinert : Inert 1 " @Size(max = 3) ".toList := by
    have hlist : Inert 0 ('(' :: "max = 3".toList ++ [')']) :=
      (inert_of_forall (forall_mem_of_all (by decide))).toList.enclose (by decide) (by decide)
    have hname : Inert 0 " @Size".toList := inert_of_forall (forall_mem_of_all (by decide))
    exact ((hname.append hlist).append (inert_of_blank hspace)).toList
  have hopens : (Spacing.annotated {}).opens mapName [] :=
    ⟨.nil, ⟨keepsDepth_nil, List.not_mem_nil⟩, fun _ => rfl⟩
  have hprecedes : (Spacing.annotated {}).precedes " @Size(max = 3) ".toList := ⟨hsize, hinert⟩
  have hannotated : Spells (.annotated {}) (.type shipMap)
      "Map<Ship, @Size(max = 3) Ship>".toList :=
    .generic hmap hopens (.cons (.type (.name hship)) hprecedes (.single (.type (.name hship))))
  obtain ⟨htarget, -, -⟩ :=
    (resolve_annotated { language := .java, settings := {} } _ hfront).2 _ _ _ hplain hannotated
  exact ⟨hfront, hplain, hannotated, htarget.trans (by decide +kernel)⟩

/-- An annotation in front of what a container holds stays in the display and hides the target. -/
theorem resolve_annotated_element :
    Annotations "@NonNull ".toList ∧
      TypeRef.resolve { language := .java, settings := {} }
        ("List<".toList ++ "@NonNull ".toList ++ "Pilot>".toList) =
          { display := "List<@NonNull Pilot>", target := none, isCollection := true } ∧
      TypeRef.resolve { language := .java, settings := {} } ("List<".toList ++ "Pilot>".toList) =
          { display := "List<Pilot>", target := some "Pilot", isCollection := true } :=
  ⟨.cons "NonNull".toList (forall_mem_of_all (by decide)) .none (by decide) blank_singleton .nil,
    by decide +kernel, by decide +kernel⟩

end ClassGraph
