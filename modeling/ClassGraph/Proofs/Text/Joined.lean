import ClassGraph.Proofs.Text.Bracketed

/-!
# Joined texts

A split at commas undoes a join with commas. `Joined` relates a list of parts to the texts that are
joined of it, with any blanks around each comma, and `ListPart` says which texts are parts that can
be told apart again: their own commas stand inside of brackets, and no blanks stand around them. The
parts of a joined text are found as they are, and so are the arguments of a type that are joined of
them (`splitTopLevel_joined`).

The induction is on the join, with blanks in front of it (`Joined.splitTopLevel`), since those
behind a comma are left over when the part in front of the comma has been split off.
-/

namespace ClassGraph.Text

/-- A text that can be told from its neighbours in a list. -/
structure ListPart (s : List Char) : Prop where
  /-- There is something to find. -/
  ne_nil : s ≠ []
  /-- No blanks stand at the ends. -/
  trimmed : trim s = s
  /-- The brackets close each other, and the commas stand inside of them. -/
  paired : Paired false s

/-- The text is a concatenation of the parts in order, with a comma and any blanks around it between
two of them. -/
inductive Joined : List (List Char) → List Char → Prop
  | nil : Joined [] []
  | one (s : List Char) : Joined [s] s
  | cons {s t before after text : List Char} {parts : List (List Char)} (hbefore : Blank before)
    (hafter : Blank after) (h : Joined (t :: parts) text) :
    Joined (s :: t :: parts) (s ++ before ++ ',' :: after ++ text)

variable {s text w w' : List Char} {parts : List (List Char)}

namespace ListPart

/-- Blanks around a part do not make it another. -/
theorem trim_pad (h : ListPart s) (hw : Blank w) (hw' : Blank w') : trim (w ++ s ++ w') = s := by
  rw [trim_append_right _ hw', trim_append_left hw, h.trimmed]

/-- A part of a list between blanks has its commas inside of its brackets. -/
theorem nested_pad (h : ListPart s) (hw : Blank w) (hw' : Blank w') : Nested (w ++ s ++ w') :=
  (((paired_of_blank hw).append h.paired).append (paired_of_blank hw')).nested

end ListPart

/-- A split of a joined text finds the parts, whatever blanks stand in front. -/
theorem Joined.splitTopLevel (h : Joined parts text) (hparts : ∀ s ∈ parts, ListPart s)
    (hw : Blank w) : splitTopLevel ',' (w ++ text) = parts := by
  induction h generalizing w with
  | nil =>
    have hnested : Nested w := (paired_of_blank hw).nested
    have hunsplit := (hnested 0 none (Int.le_refl 0) (apart_of_ne (by simp) w)).1
    rw [List.append_nil, splitTopLevel_of_blank hunsplit hw]
  | one s =>
    have hs : ListPart s := hparts s (List.mem_singleton_self s)
    have htrim : trim (w ++ s) = s := by simpa using hs.trim_pad hw blank_nil
    have hnested : Nested (w ++ s) := by simpa using hs.nested_pad hw blank_nil
    rw [splitTopLevel_of_nested hnested (by rw [htrim]; exact hs.ne_nil), htrim]
  | @cons s t before after text parts hbefore hafter _ ih =>
    rw [List.forall_mem_cons] at hparts
    have htext : w ++ (s ++ before ++ ',' :: after ++ text) =
        w ++ s ++ before ++ ',' :: (after ++ text) := by simp
    rw [htext, splitTopLevel_append (hparts.1.nested_pad hw hbefore),
      hparts.1.trim_pad hw hbefore, ih hparts.2 hafter]

/-- A split at commas undoes a join. For all parts without blanks around them whose commas stand
inside of brackets, a text that is joined of them is split into just these parts. Between angle
brackets behind a base that holds no `<`, it is read as this base with just these arguments, and
with none when nothing stands between the brackets. -/
theorem splitTopLevel_joined (hparts : ∀ s ∈ parts, ListPart s) (h : Joined parts text) :
    splitTopLevel ',' text = parts ∧
      ∀ base, '<' ∉ base →
        genericBase (base ++ '<' :: text ++ ['>']) = base ∧
          genericArguments (base ++ '<' :: text ++ ['>']) = parts := by
  have hsplit := h.splitTopLevel hparts blank_nil
  rw [List.nil_append] at hsplit
  refine ⟨hsplit, fun base hbase => ⟨?_, ?_⟩⟩
  · rw [genericBase, List.append_assoc, List.cons_append, beforeChar_append hbase]
  · rw [genericArguments_append hbase, hsplit]

/-- The text `Map<Ship, (Ship) -> Unit>`. -/
def handlerMap : List Char :=
  "Map".toList ++ ('<' :: ("Ship".toList ++ ',' :: ' ' ::
    ('(' :: "Ship".toList ++ ')' :: ' ' :: '-' :: '>' :: " Unit".toList)) ++ '>' :: [])

/-- The map of handlers is a part of a list. -/
theorem listPart_handlerMap : ListPart handlerMap where
  ne_nil := by decide
  trimmed := by decide
  paired := by
    have hship : Paired true "Ship".toList := paired_of_forall (forall_mem_of_all (by decide))
    have hunit : Paired true " Unit".toList := paired_of_forall (forall_mem_of_all (by decide))
    have hfunction : Paired true
        ('(' :: "Ship".toList ++ ')' :: ' ' :: '-' :: '>' :: " Unit".toList) :=
      .group (by decide) hship (apart_of_ne (by decide) _) (.plain (by decide) (.arrow hunit))
    exact (paired_of_forall (forall_mem_of_all (by decide))).append
      (.group (by decide) (hship.append (.comma (.plain (by decide) hfunction)))
        (apart_of_ne (by decide) _) .nil)

/-- The text `Dock[3 -]`, in which a bracket closes behind a dash. -/
def openDock : List Char := "Dock".toList ++ ('[' :: "3 -".toList ++ ']' :: [])

/-- The open dock is a part of a list. -/
theorem listPart_openDock : ListPart openDock where
  ne_nil := by decide
  trimmed := by decide
  paired := (paired_of_forall (forall_mem_of_all (by decide))).append
    (.group (by decide) (paired_of_forall (forall_mem_of_all (by decide))) (fun _ => by decide)
      .nil)

/-- An arrow is a part of a list. -/
theorem listPart_arrow : ListPart ['-', '>'] where
  ne_nil := by decide
  trimmed := by decide
  paired := .arrow .nil

/-- Arrows inside of brackets and alone, a bracket behind a dash, and blanks of three kinds. -/
theorem splitTopLevel_joined_registry :
    let parts := ["Map<Ship, (Ship) -> Unit>".toList, "Dock[3 -]".toList, "->".toList]
    let text := "Map<Ship, (Ship) -> Unit> ,\n\tDock[3 -],->".toList
    let base := "fleet.Registry".toList
    (∀ s ∈ parts, ListPart s) ∧ Joined parts text ∧ '<' ∉ base ∧
      splitTopLevel ',' text = parts ∧ genericBase (base ++ '<' :: text ++ ['>']) = base ∧
      genericArguments (base ++ '<' :: text ++ ['>']) = parts := by
  intro parts text base
  have hnames : [handlerMap, openDock, ['-', '>']] = parts := by decide
  have hparts : ∀ s ∈ parts, ListPart s := by
    rw [← hnames, List.forall_mem_cons, List.forall_mem_cons, List.forall_mem_singleton]
    exact ⟨listPart_handlerMap, listPart_openDock, listPart_arrow⟩
  have hblank : Blank ['\n', '\t'] := forall_mem_of_all (by decide)
  have htext : handlerMap ++ [' '] ++ ',' :: ['\n', '\t'] ++
      (openDock ++ [] ++ ',' :: [] ++ ['-', '>']) = text := by decide
  have hjoined : Joined parts text := by
    rw [← hnames, ← htext]
    exact .cons blank_singleton hblank (.cons blank_nil blank_nil (.one ['-', '>']))
  have hbase : '<' ∉ base := by decide
  obtain ⟨hsplit, hgeneric⟩ := splitTopLevel_joined hparts hjoined
  exact ⟨hparts, hjoined, hbase, hsplit, hgeneric base hbase⟩

end ClassGraph.Text
