import ClassGraph.Proofs.Diagram.BlockReader
import ClassGraph.Proofs.Diagram.Grouping

/-!
# The class blocks of both notations

Both notations draw the classes by their packages, each class as a block that shows its kind, its
name and its members. The text of a document is fixed by its arrangement and these blocks
(`PlantUml.documentLines_eq_arranged`, `Aml.documentLines_eq_arranged`), and a reader that knows the
scheme of the notation and nothing of the classes finds the blocks again
(`PlantUml.shownBlocks_render`, `Aml.shownBlocks_render`). Such a reader takes a text line by line,
so that no name and no line of a member may hold a line break. PlantUML has no word of its own for a
record or an object and marks them behind the name, so that there the name of a plain class may not
end with such a mark.

The two arrangements of a list of classes differ in the order of the packages only
(`render_arranged`).
-/

namespace ClassGraph.Diagram

/-- The blocks of the classes of an arrangement, where each class is shown in the same way. -/
def Arrangement.blocks (a : Arrangement) (shown : Classifier → ClassBlock) : Blocks where
  packages := a.packages.map fun package => (package.1, package.2.map shown)
  loose := a.loose.map shown

/-- All that a block shows of a class is on lines of their own. -/
structure OnOwnLines (c : Classifier) : Prop where
  /-- Its name is on one line. -/
  name : Unbroken c.name
  /-- So is its package. -/
  package : ∀ package, c.package = some package → Unbroken package
  /-- So are the names and types of its fields. -/
  fields : ∀ f ∈ c.fields, Unbroken f.name ∧ Unbroken f.typeName
  /-- So are the names and types of its methods. -/
  methods : ∀ m ∈ c.methods, Unbroken m.name ∧ Unbroken m.returnType ∧
    ∀ p ∈ m.parameters, Unbroken p.typeName

instance (c : Classifier) : Decidable (OnOwnLines c) :=
  decidable_of_iff (Unbroken c.name ∧ (∀ package ∈ c.package, Unbroken package) ∧
      (∀ f ∈ c.fields, Unbroken f.name ∧ Unbroken f.typeName) ∧
      ∀ m ∈ c.methods, Unbroken m.name ∧ Unbroken m.returnType ∧
        ∀ p ∈ m.parameters, Unbroken p.typeName)
    ⟨fun ⟨hname, hpackage, hfields, hmethods⟩ => ⟨hname, hpackage, hfields, hmethods⟩,
      fun h => ⟨h.name, h.package, h.fields, h.methods⟩⟩

/-- The block of a class, with the lines of fields and methods as a notation writes them. -/
def blockOf (fieldLine : Field → String) (methodLine : Method → String) (c : Classifier) :
    ClassBlock where
  isAbstract := c.isAbstract && c.kind == .plain
  kind := c.kind
  name := c.name
  members := c.fields.map fieldLine ++ c.methods.map methodLine

section

variable {fieldLine : Field → String} {methodLine : Method → String} {c : Classifier}

/-- What is shown as abstract is a plain class. -/
theorem kind_blockOf_of_isAbstract (h : (blockOf fieldLine methodLine c).isAbstract = true) :
    (blockOf fieldLine methodLine c).kind = .plain :=
  beq_iff_eq.mp (Bool.and_eq_true_iff.mp h).2

/-- The lines of the members of a class are not broken when those of fields and methods are not. -/
theorem unbroken_blockOf (h : OnOwnLines c)
    (hfield : ∀ f : Field, Unbroken f.name → Unbroken f.typeName → Unbroken (fieldLine f))
    (hmethod : ∀ m : Method, Unbroken m.name → Unbroken m.returnType →
      (∀ p ∈ m.parameters, Unbroken p.typeName) → Unbroken (methodLine m)) :
    ∀ text ∈ (blockOf fieldLine methodLine c).members, Unbroken text := by
  simp only [blockOf, List.forall_mem_append, List.forall_mem_map]
  refine ⟨fun f hf => ?_, fun m hm => ?_⟩
  · obtain ⟨hname, htype⟩ := h.fields f hf
    exact hfield f hname htype
  · obtain ⟨hname, htype, hparameters⟩ := h.methods m hm
    exact hmethod m hname htype hparameters

end

/-- The mark of a visibility is on one line. -/
theorem unbroken_symbol (v : Visibility) : Unbroken v.symbol.toString := by
  cases v <;> decide

/-- The types of the parameters of a method are on one line when each of them is. -/
theorem unbroken_parameters {m : Method} (h : ∀ p ∈ m.parameters, Unbroken p.typeName) :
    Unbroken (", ".intercalate (m.parameters.map (·.typeName))) :=
  unbroken_intercalate (by decide) (List.forall_mem_map.mpr h)

namespace Arrangement.Holds

variable {classes : List Classifier} {a : Arrangement} (h : a.Holds classes)

include h

/-- What is shown of all classes is shown in all blocks. -/
theorem all_blocks {shown : Classifier → ClassBlock} {p : ClassBlock → Prop}
    (hclasses : ∀ c ∈ classes, p (shown c)) : (a.blocks shown).All p := by
  have hplaced : ∀ c ∈ a.packages.flatMap (·.2) ++ a.loose, p (shown c) :=
    fun c hc => hclasses c (h.perm.mem_iff.mp hc)
  obtain ⟨hpackages, hloose⟩ := List.forall_mem_append.mp hplaced
  constructor
  · simp only [blocks, List.forall_mem_map]
    exact fun package hpackage c hc => hpackages c (List.mem_flatMap.mpr ⟨package, hpackage, hc⟩)
  · simp only [blocks, List.forall_mem_map]
    exact hloose

/-- The packages of the blocks are those of the classes. -/
theorem forall_packages {shown : Classifier → ClassBlock} {p : String → Prop}
    (hclasses : ∀ c ∈ classes, ∀ package, c.package = some package → p package) :
    ∀ package ∈ (a.blocks shown).packages, p package.1 := by
  simp only [blocks, List.forall_mem_map]
  intro package hpackage
  obtain ⟨hne, hlists⟩ := h.lists package hpackage
  -- A package has a class, and this class is one of all.
  obtain ⟨c, hc⟩ := List.exists_mem_of_ne_nil _ hne
  obtain ⟨hc, hpackage⟩ := List.mem_filter.mp (hlists.perm.mem_iff.mp hc)
  exact hclasses c hc _ (beq_iff_eq.mp hpackage)

/-- A reader finds in a text the blocks of the classes, when what is shown of each class is legible
and on lines of its own, and nothing that follows is read as a block. -/
theorem readText_eq {s : Scheme} {legible : ClassBlock → Prop} (hsound : s.Sound legible)
    {shown : Classifier → ClassBlock} (hname : ∀ c, (shown c).name = c.name)
    (hlegible : ∀ c ∈ classes, legible (shown c)) (hlines : ∀ c ∈ classes, OnOwnLines c)
    (hmembers : ∀ c ∈ classes, ∀ text ∈ (shown c).members, Unbroken text)
    {front behind : List String} (hfront : ∀ line ∈ front, Unbroken line)
    (hbehind : ((linesOf (String.join (behind.map (· ++ "\n")))).foldl s.next
      { read := a.blocks shown }).read = a.blocks shown) :
    s.readText front.length
        (String.join ((front ++ s.blockLines (a.blocks shown) ++ behind).map (· ++ "\n"))) =
      a.blocks shown := by
  have hunbroken := hsound.unbroken_blockLines
    (h.forall_packages fun c hc => (hlines c hc).package)
    (h.all_blocks fun c hc => (hname c).symm ▸ (hlines c hc).name) (h.all_blocks hmembers)
  exact hsound.readText_eq (h.all_blocks hlegible) hunbroken hfront hbehind

end Arrangement.Holds

/-! ## Words in front of a name -/

/-- The class that is announced by one of some words, each of which says of what kind it is and
whether it is abstract. -/
def announced? (words : List (String × Bool × ClassifierKind)) (text : String) :
    Option ClassBlock :=
  words.findSome? fun (word, isAbstract, kind) =>
    (after? word text).map fun name => { isAbstract, kind, name }

/-- None of two words begins with the other. -/
def Parted (a b : String) : Prop := ¬ a.toList <+: b.toList ∧ ¬ b.toList <+: a.toList

instance (a b : String) : Decidable (Parted a b) :=
  inferInstanceAs (Decidable (¬ a.toList <+: b.toList ∧ ¬ b.toList <+: a.toList))

/-- A class is announced by its word, when none of the words begins with another. -/
theorem announced?_append {words : List (String × Bool × ClassifierKind)}
    (hwords : words.Pairwise fun a b => Parted a.1 b.1) (entry : String × Bool × ClassifierKind)
    (hentry : entry ∈ words) (name : String) :
    announced? words (entry.1 ++ name) =
      some { isAbstract := entry.2.1, kind := entry.2.2, name } := by
  unfold announced?
  induction words with
  | nil => cases hentry
  | cons first words ih =>
    obtain ⟨word, isAbstract, kind⟩ := first
    obtain ⟨hfirst, hwords⟩ := List.pairwise_cons.mp hwords
    rw [List.findSome?_cons]
    dsimp only
    rcases List.mem_cons.mp hentry with rfl | hentry
    · rw [after?_append, Option.map_some]
    · obtain ⟨hparted, hparted'⟩ := hfirst _ hentry
      have hother : after? word (entry.1 ++ name) = none := after?_eq_none name hparted hparted'
      rw [hother, Option.map_none]
      exact ih hwords hentry

/-! ## PlantUML -/

namespace PlantUml

/-- What a diagram shows of a class. -/
def shown (c : Classifier) : ClassBlock :=
  blockOf fieldLine (methodLine (c.kind != .interface)) c

/-- The block of a class has its name. -/
theorem name_shown (c : Classifier) : (shown c).name = c.name := rfl

/-- What is said of a class in front of its members. -/
def headingOf (block : ClassBlock) : String :=
  match block.kind with
  | .plain => (if block.isAbstract then "abstract class " else "class ") ++ block.name
  | .record => "class " ++ block.name ++ " <<record>>"
  | .object => "class " ++ block.name ++ " <<object>>"
  | .interface => "interface " ++ block.name
  | .enum => "enum " ++ block.name
  | .annotationType => "annotation " ++ block.name

/-- The words that announce a class. -/
def headingWords : List (String × Bool × ClassifierKind) :=
  [("abstract class ", true, .plain), ("class ", false, .plain), ("interface ", false, .interface),
    ("enum ", false, .enum), ("annotation ", false, .annotationType)]

/-- A plain class as it is read: a mark behind the name says that it is a record or an object. -/
def marked (block : ClassBlock) : ClassBlock :=
  if block.kind = .plain ∧ block.isAbstract = false then
    match before? " <<record>>" block.name, before? " <<object>>" block.name with
    | some name, _ => { block with kind := .record, name }
    | none, some name => { block with kind := .object, name }
    | none, none => block
  else block

/-- How a diagram marks packages and classes. -/
def scheme : Scheme where
  packageLine name := "  package \"" ++ name ++ "\" \x7b"
  package? line := do before? "\" \x7b" (← after? "  package \"" line)
  packageEnd := "  \x7d"
  heading := headingOf
  heading? text := (announced? headingWords text).map marked
  indent _ := "    "
  memberIndent := "  "
  looseGap := []
  closing := "' Relationships"

/-- The lines of the classes of a diagram. -/
def blockLines (a : Arrangement) : List String := scheme.blockLines (a.blocks shown)

/-- The lines of a diagram behind its classes. -/
def closingLines (classes : List Classifier) : List String :=
  let connectors := connectorLines connectorLine classes
  (if connectors.isEmpty then [] else ["", "' Relationships"] ++ connectors) ++ ["@enduml"]

/-- The blocks that a diagram shows behind the fourteen lines that stand in front of its classes. -/
def shownBlocks (text : String) : Blocks := scheme.readText 14 text

/-- What is said of a class is said of its block. -/
theorem heading_eq (c : Classifier) : heading c = headingOf (shown c) := by
  unfold heading headingOf shown blockOf
  cases hk : c.kind with
  | plain => simp
  | interface | enum | annotationType | object | record =>
    apply String.toList_inj.mp
    simp [ClassifierKind.name, toString]

/-- The lines of a class are those of its block. -/
theorem classLines_eq (inPackage : Bool) (c : Classifier) :
    classLines c = scheme.classLines inPackage (shown c) := by
  have hopen : "    " ++ heading c ++ " \x7b" = scheme.classLine inPackage (shown c) := by
    rw [heading_eq]
    rfl
  rw [classLines, Scheme.classLines, hopen, shown, blockOf, List.map_append, List.map_map,
    List.map_map]
  simp only [List.append_assoc]
  rfl

/-- A diagram is its opening, its classes in their packages, and what closes it. -/
theorem documentLines_eq_arranged (layout : Layout) (classes : List Classifier) :
    documentLines layout classes =
      openingLines layout ++ layoutLines layout classes.length (packages classes).length ++
        blockLines (arranged (packages classes) classes) ++ closingLines classes := by
  have hpackage (package : String × List Classifier) :
      ["  package \"" ++ package.1 ++ "\" \x7b"] ++ package.2.flatMap classLines ++ ["  \x7d", ""] =
        scheme.packageLines (package.1, package.2.map shown) := by
    rw [Scheme.packageLines, List.flatMap_map, List.flatMap_congr fun c _ => classLines_eq true c]
    rfl
  have hloose (c : Classifier) : classLines c = scheme.looseLines (shown c) :=
    (classLines_eq false c).trans (List.append_nil _).symm
  rw [documentLines, grouped_eq, blockLines, Scheme.blockLines, Arrangement.blocks]
  dsimp only
  rw [List.flatMap_map, List.flatMap_map, List.flatMap_congr fun package _ => hpackage package,
    List.flatMap_congr fun c _ => hloose c]
  simp only [arranged, List.length_map, closingLines, List.append_assoc]

/-- A block that is read as what it is. -/
structure Legible (block : ClassBlock) : Prop where
  /-- An abstract class is plain. -/
  plain_of_isAbstract : block.isAbstract = true → block.kind = .plain
  /-- The name of a plain class does not end with a mark. -/
  unmarked : block.kind = .plain → block.isAbstract = false →
    before? " <<record>>" block.name = none ∧ before? " <<object>>" block.name = none

instance (block : ClassBlock) : Decidable (Legible block) :=
  decidable_of_iff ((block.isAbstract = true → block.kind = .plain) ∧
      (block.kind = .plain → block.isAbstract = false →
        before? " <<record>>" block.name = none ∧ before? " <<object>>" block.name = none))
    ⟨fun ⟨hplain, hunmarked⟩ => ⟨hplain, hunmarked⟩,
      fun h => ⟨h.plain_of_isAbstract, h.unmarked⟩⟩

/-- A reader finds what is said of a class. -/
theorem heading?_headingOf {block : ClassBlock} (h : Legible block) :
    (announced? headingWords (headingOf block)).map marked =
      some { block with members := [] } := by
  have hread := announced?_append (by decide : headingWords.Pairwise fun a b => Parted a.1 b.1)
  have hclass := hread ("class ", false, .plain) (by decide)
  obtain ⟨isAbstract, kind, name, members⟩ := block
  -- A plain class could be marked by its name only, which is ruled out; the others show their kind.
  by_cases hkind : kind = .plain
  · subst hkind
    cases isAbstract with
    | true =>
      have habstract := hread ("abstract class ", true, .plain) (by decide) name
      exact (congrArg (Option.map marked) habstract).trans rfl
    | false =>
      obtain ⟨hrecord, hobject⟩ := h.unmarked rfl rfl
      refine (congrArg (Option.map marked) (hclass name)).trans ?_
      dsimp only at hrecord hobject
      simp [marked, hrecord, hobject]
  · obtain rfl : isAbstract = false :=
      Bool.eq_false_iff.mpr fun habstract => hkind (h.plain_of_isAbstract habstract)
    cases kind with
    | plain => exact absurd rfl hkind
    | interface => exact (congrArg (Option.map marked)
        (hread ("interface ", false, .interface) (by decide) name)).trans rfl
    | enum => exact (congrArg (Option.map marked)
        (hread ("enum ", false, .enum) (by decide) name)).trans rfl
    | annotationType => exact (congrArg (Option.map marked)
        (hread ("annotation ", false, .annotationType) (by decide) name)).trans rfl
    | record =>
      -- The mark behind the name says that the class is a record.
      have hheading : headingOf ⟨false, .record, name, members⟩ =
          "class " ++ (name ++ " <<record>>") := String.append_assoc ..
      rw [hheading, hclass]
      simp [marked]
    | object =>
      have hheading : headingOf ⟨false, .object, name, members⟩ =
          "class " ++ (name ++ " <<object>>") := String.append_assoc ..
      have hrecord : before? " <<record>>" (name ++ " <<object>>") = none :=
        before?_eq_none name (by decide) (by decide)
      rw [hheading, hclass]
      simp [marked, hrecord]

/-- A reader can follow the scheme of a diagram. -/
theorem sound_scheme : scheme.Sound Legible where
  package?_packageLine name := by
    change (after? "  package \"" ("  package \"" ++ name ++ "\" \x7b")).bind
      (before? "\" \x7b") = _
    rw [String.append_assoc, after?_append]
    exact before?_append _ _
  packageLine_ne name := by
    have hline := after?_append "  package \"" (name ++ "\" \x7b")
    rw [← String.append_assoc] at hline
    exact ne_of_after? hline (by decide)
  heading?_heading block h := heading?_headingOf h
  -- The line of a class is indented further than those of packages.
  package?_classLine block _ := by
    change (after? "  package \"" ("    " ++ headingOf block ++ " \x7b")).bind _ = none
    rw [String.append_assoc, after?_eq_none _ (by decide) (by decide)]
    rfl
  classLine_ne_packageEnd block _ :=
    ne_of_after? (scheme.after?_classLine true block) (by decide)
  classLine_ne_closing block _ :=
    ne_of_after? (scheme.after?_classLine false block) (by decide)
  memberIndent := ⟨" ", rfl⟩
  next_empty blocks := rfl
  looseGap := .inl rfl
  unbroken_packageLine name hname := by
    simp only [scheme, unbroken_append]
    exact ⟨⟨by decide, hname⟩, by decide⟩
  unbroken_packageEnd := by decide
  unbroken_heading block hname := by
    obtain ⟨isAbstract, kind, name, members⟩ := block
    change Unbroken (headingOf ⟨isAbstract, kind, name, members⟩)
    cases kind with
    | plain =>
      have hwords : Unbroken "abstract class " ∧ Unbroken "class " := by decide
      cases isAbstract
      · exact hwords.2.append hname
      · exact hwords.1.append hname
    | record | object => exact (Unbroken.append (by decide) hname).append (by decide)
    | interface | enum | annotationType => exact .append (by decide) hname
  unbroken_indent _ := (by decide : Unbroken "    ")
  unbroken_memberIndent := (by decide : Unbroken "  ")

/-- The line of a field is not broken. -/
theorem unbroken_fieldLine {f : Field} (hname : Unbroken f.name) (htype : Unbroken f.typeName) :
    Unbroken (fieldLine f) := by
  have hmark : Unbroken (if f.isStatic then staticMark else "") := by split_ifs <;> decide
  have htyped : Unbroken s!"{f.name} : {f.typeName}" := (hname.append (by decide)).append htype
  unfold fieldLine
  split
  · exact hname
  · exact ((unbroken_symbol _).append hmark).append htyped

/-- The line of a method is not broken. -/
theorem unbroken_methodLine (showAbstract : Bool) {m : Method} (hname : Unbroken m.name)
    (htype : Unbroken m.returnType) (hparameters : ∀ p ∈ m.parameters, Unbroken p.typeName) :
    Unbroken (methodLine showAbstract m) := by
  have hstatic : Unbroken (if m.isStatic then staticMark else "") := by split_ifs <;> decide
  have habstract : Unbroken (if showAbstract && m.isAbstract then abstractMark else "") := by
    split_ifs <;> decide
  have hreturn : Unbroken (if m.returnType.isEmpty then "" else " : " ++ m.returnType) := by
    split_ifs
    · decide
    · exact .append (by decide) htype
  unfold methodLine
  simp only [unbroken_append]
  exact ⟨⟨⟨⟨⟨⟨⟨unbroken_symbol _, hstatic⟩, habstract⟩, hname⟩, by decide⟩,
    unbroken_parameters hparameters⟩, by decide⟩, hreturn⟩

/-- The lines in front of the classes of a diagram are not broken when its title and its kind of
lines are not. -/
theorem unbroken_opening {layout : Layout} (classCount packageCount : Nat)
    (htitle : ∀ title, layout.title = some title → Unbroken title)
    (hkind : Unbroken layout.lineType) :
    ∀ line ∈ openingLines layout ++ layoutLines layout classCount packageCount,
      Unbroken line := by
  have hfirst : Unbroken ("@startuml" ++ layout.title.elim "" (" " ++ ·)) := by
    refine .append (by decide) ?_
    cases hsome : layout.title with
    | none => decide
    | some title => exact .append (by decide) (htitle title hsome)
  have hrest : ∀ line ∈ (openingLines layout).tail, Unbroken line := by
    change ∀ line ∈ ["", _, _, _, _, _, _, _], _
    decide
  have hdirection (horizontal : Bool) : Unbroken
      (if horizontal then "left to right direction" else "top to bottom direction") := by
    cases horizontal <;> decide
  have hnode (n : Nat) : Unbroken s!"skinparam nodesep {n}" :=
    .append (by decide) (unbroken_toString n)
  have hrank (n : Nat) : Unbroken s!"skinparam ranksep {n}" :=
    .append (by decide) (unbroken_toString n)
  have hlines : Unbroken s!"skinparam linetype {layout.lineType}" := .append (by decide) hkind
  refine List.forall_mem_append.mpr ⟨List.forall_mem_cons.mpr ⟨hfirst, hrest⟩, ?_⟩
  unfold layoutLines
  simp only [List.forall_mem_cons]
  exact ⟨hdirection _, hnode _, hrank _, hlines, by decide, by decide⟩

/-- Behind the classes of a diagram, no line is read as a block. -/
theorem read_closingLines (classes : List Classifier) (blocks : Blocks) :
    ((linesOf (String.join ((closingLines classes).map (· ++ "\n")))).foldl scheme.next
      { read := blocks }).read = blocks := by
  have hend : linesOf (String.join (([] ++ ["@enduml"]).map (· ++ "\n"))) = ["@enduml"] :=
    linesOf_join_of_unbroken (by decide)
  have hheading (lines : List String) :
      (["", "' Relationships"] ++ lines).foldl scheme.next { read := blocks } =
        ⟨blocks, .behind⟩ :=
    scheme.foldl_behind blocks lines
  unfold closingLines
  dsimp only
  split_ifs
  · rw [hend]
    rfl
  · rw [List.append_assoc, linesOf_join_append, linesOf_join_of_unbroken (by decide), hheading]

/-- A reader finds in a diagram the blocks of the classes. -/
theorem shownBlocks_render {layout : Layout} {classes : List Classifier}
    (htitle : ∀ title, layout.title = some title → Unbroken title)
    (hkind : Unbroken layout.lineType) (hlines : ∀ c ∈ classes, OnOwnLines c)
    (hlegible : ∀ c ∈ classes, Legible (shown c)) :
    shownBlocks (render layout classes) =
      (arranged (packages classes) classes).blocks shown := by
  have hholds : (arranged (packages classes) classes).Holds classes :=
    holds_arranged (nodup_packages classes) fun _ => mem_packages
  have hread := hholds.readText_eq sound_scheme name_shown hlegible hlines
    (fun c hc => unbroken_blockOf (hlines c hc) (fun _ => unbroken_fieldLine)
      fun _ => unbroken_methodLine _)
    (unbroken_opening classes.length (packages classes).length htitle hkind)
    (read_closingLines classes _)
  -- Nine lines open a diagram, and five place its classes.
  have hfront : (openingLines layout ++
      layoutLines layout classes.length (packages classes).length).length = 14 := rfl
  rw [hfront] at hread
  rw [shownBlocks, render, documentLines_eq_arranged, blockLines, hread]

end PlantUml

/-! ## Aetheris Modeling Language -/

namespace Aml

/-- What a document shows of a class. -/
def shown (c : Classifier) : ClassBlock := blockOf fieldLine methodLine c

/-- The block of a class has its name. -/
theorem name_shown (c : Classifier) : (shown c).name = c.name := rfl

/-- What is said of a class in front of its members. -/
def headingOf (block : ClassBlock) : String :=
  match block.kind with
  | .plain => (if block.isAbstract then "abstract class " else "class ") ++ block.name
  | .interface => "interface " ++ block.name
  | .enum => "enum " ++ block.name
  | .object => "object " ++ block.name
  | .record => "record " ++ block.name
  | .annotationType => "annotation " ++ block.name

/-- The words that announce a class. -/
def headingWords : List (String × Bool × ClassifierKind) :=
  [("abstract class ", true, .plain), ("class ", false, .plain), ("interface ", false, .interface),
    ("enum ", false, .enum), ("object ", false, .object), ("record ", false, .record),
    ("annotation ", false, .annotationType)]

/-- How a document marks namespaces and classes. -/
def scheme : Scheme where
  packageLine name := "namespace " ++ name ++ " \x7b"
  package? line := do before? " \x7b" (← after? "namespace " line)
  packageEnd := "\x7d"
  heading := headingOf
  heading? := announced? headingWords
  indent inPackage := if inPackage then "    " else ""
  memberIndent := "    "
  looseGap := [""]
  closing := "// Relationships"

/-- The lines of the classes of a document. -/
def blockLines (a : Arrangement) : List String := scheme.blockLines (a.blocks shown)

/-- The lines of a document behind its classes. -/
def closingLines (classes : List Classifier) : List String :=
  "// Relationships" :: connectorLines connectorLine classes

/-- The blocks that a document shows. -/
def shownBlocks (text : String) : Blocks := scheme.readText 0 text

/-- The lines of a class are those of its block. -/
theorem classLines_eq (inPackage : Bool) (c : Classifier) :
    classLines (scheme.indent inPackage) c = scheme.classLines inPackage (shown c) := by
  have hopen : scheme.indent inPackage ++
      (if c.isAbstract && c.kind == .plain then "abstract " else "") ++
      s!"{c.kind.name} {c.name} " ++ "\x7b" = scheme.classLine inPackage (shown c) := by
    unfold Scheme.classLine
    change _ = scheme.indent inPackage ++ headingOf (shown c) ++ " \x7b"
    apply String.toList_inj.mp
    unfold headingOf shown blockOf
    cases hkind : c.kind with
    | plain => cases habstract : c.isAbstract <;> simp [ClassifierKind.name, toString]
    | interface | enum | object | record | annotationType => simp [ClassifierKind.name, toString]
  rw [classLines, Scheme.classLines, ← hopen, shown, blockOf, List.map_append, List.map_map,
    List.map_map]
  simp only [List.append_assoc]
  rfl

/-- A document is its classes in their namespaces, and what closes it. -/
theorem documentLines_eq_arranged (classes : List Classifier) :
    documentLines classes =
      blockLines (arranged (namespaces classes) classes) ++ closingLines classes := by
  have hclass (c : Classifier) : classLines "    " c = scheme.classLines true (shown c) :=
    classLines_eq true c
  have hpackage (package : String × List Classifier) :
      ["namespace " ++ package.1 ++ " \x7b"] ++ package.2.flatMap (classLines "    ") ++
          ["\x7d", ""] = scheme.packageLines (package.1, package.2.map shown) := by
    rw [Scheme.packageLines, List.flatMap_map, List.flatMap_congr fun c _ => hclass c]
    rfl
  have hloose (c : Classifier) : classLines "" c ++ [""] = scheme.looseLines (shown c) :=
    congrArg (· ++ [""]) (classLines_eq false c)
  -- The map and the loose classes behind the fold are those of the arrangement.
  obtain ⟨hpackages, hrest⟩ := Prod.mk.inj (place_eq classes)
  rw [blockLines, Scheme.blockLines, Arrangement.blocks, ← hpackages, ← hrest]
  dsimp only
  rw [List.flatMap_map, List.flatMap_map, List.flatMap_map,
    ← List.flatMap_congr fun entry _ => hpackage (entry.1, byName entry.2),
    ← List.flatMap_congr fun c _ => hloose c, closingLines,
    ← List.singleton_append (x := "// Relationships"), ← List.append_assoc]
  rfl

/-- A block that is read as what it is: what is abstract is a plain class. -/
def Legible (block : ClassBlock) : Prop := block.isAbstract = true → block.kind = .plain

/-- What is said of a class is one of the words, and its name. -/
theorem exists_headingWord (block : ClassBlock) :
    ∃ entry ∈ headingWords, headingOf block = entry.1 ++ block.name ∧
      (Legible block → entry.2 = (block.isAbstract, block.kind)) := by
  obtain ⟨isAbstract, kind, name, members⟩ := block
  -- Only the words for a plain class say whether it is abstract.
  have hsays (hkind : kind ≠ .plain) (h : Legible ⟨isAbstract, kind, name, members⟩) :
      (false, kind) = (isAbstract, kind) :=
    Prod.ext (Bool.eq_false_iff.mpr fun habstract => hkind (h habstract)).symm rfl
  cases kind with
  | plain =>
    cases isAbstract with
    | true => exact ⟨("abstract class ", true, .plain), by decide, rfl, fun _ => rfl⟩
    | false => exact ⟨("class ", false, .plain), by decide, rfl, fun _ => rfl⟩
  | interface => exact ⟨("interface ", false, .interface), by decide, rfl, hsays (by decide)⟩
  | enum => exact ⟨("enum ", false, .enum), by decide, rfl, hsays (by decide)⟩
  | object => exact ⟨("object ", false, .object), by decide, rfl, hsays (by decide)⟩
  | record => exact ⟨("record ", false, .record), by decide, rfl, hsays (by decide)⟩
  | annotationType =>
    exact ⟨("annotation ", false, .annotationType), by decide, rfl, hsays (by decide)⟩

/-- A reader can follow the scheme of a document. -/
theorem sound_scheme : scheme.Sound Legible where
  package?_packageLine name := by
    change (after? "namespace " ("namespace " ++ name ++ " \x7b")).bind (before? " \x7b") = _
    rw [String.append_assoc, after?_append]
    exact before?_append _ _
  packageLine_ne name := by
    have hline := after?_append "namespace " (name ++ " \x7b")
    rw [← String.append_assoc] at hline
    exact ne_of_after? hline (by decide)
  heading?_heading block h := by
    obtain ⟨entry, hentry, hheading, hsays⟩ := exists_headingWord block
    change announced? headingWords (headingOf block) = _
    rw [hheading, announced?_append (by decide) entry hentry, hsays h]
  -- Outside of all packages nothing is indented, but no word for a class begins like that for a
  -- namespace.
  package?_classLine block _ := by
    obtain ⟨entry, hentry, hheading, -⟩ := exists_headingWord block
    obtain ⟨hparted, hparted'⟩ :=
      (by decide : ∀ entry ∈ headingWords, Parted "namespace " entry.1) entry hentry
    change (after? "namespace " ("" ++ headingOf block ++ " \x7b")).bind _ = none
    rw [String.empty_append, hheading, String.append_assoc, after?_eq_none _ hparted hparted']
    rfl
  classLine_ne_packageEnd block _ :=
    ne_of_after? (scheme.after?_classLine true block) (by decide)
  classLine_ne_closing block _ := by
    obtain ⟨entry, hentry, hheading, -⟩ := exists_headingWord block
    have hline := after?_append entry.1 (block.name ++ " \x7b")
    rw [← String.append_assoc, ← hheading, ← String.empty_append (s := headingOf block)] at hline
    exact ne_of_after? hline
      ((by decide : ∀ entry ∈ headingWords, after? entry.1 "// Relationships" = none) entry hentry)
  memberIndent := ⟨"   ", rfl⟩
  next_empty blocks := rfl
  looseGap := .inr rfl
  unbroken_packageLine name hname := by
    simp only [scheme, unbroken_append]
    exact ⟨⟨by decide, hname⟩, by decide⟩
  unbroken_packageEnd := by decide
  unbroken_heading block hname := by
    obtain ⟨entry, hentry, hheading, -⟩ := exists_headingWord block
    have hword := (by decide : ∀ entry ∈ headingWords, Unbroken entry.1) entry hentry
    change Unbroken (headingOf block)
    rw [hheading]
    exact hword.append hname
  unbroken_indent inPackage := by cases inPackage <;> decide
  unbroken_memberIndent := by decide

/-- The line of a member does not break behind its type. -/
theorem unbroken_memberEnd (visibility : Visibility) (isStatic : Bool) :
    Unbroken (memberEnd visibility isStatic) := by
  cases visibility <;> cases isStatic <;> decide

/-- The line of a field is not broken. -/
theorem unbroken_fieldLine {f : Field} (hname : Unbroken f.name) (htype : Unbroken f.typeName) :
    Unbroken (fieldLine f) := by
  have htyped : Unbroken s!"{f.name}: {f.typeName}" := (hname.append (by decide)).append htype
  unfold fieldLine
  split
  · exact hname
  · exact htyped.append (unbroken_memberEnd _ _)

/-- The line of a method is not broken. -/
theorem unbroken_methodLine {m : Method} (hname : Unbroken m.name)
    (htype : Unbroken m.returnType) (hparameters : ∀ p ∈ m.parameters, Unbroken p.typeName) :
    Unbroken (methodLine m) := by
  have hopen : Unbroken (m.name ++ "(" ++ ", ".intercalate (m.parameters.map (·.typeName))) :=
    (hname.append (by decide)).append (unbroken_parameters hparameters)
  have htyped : Unbroken (m.name ++ "(" ++ ", ".intercalate (m.parameters.map (·.typeName)) ++
      "): " ++ m.returnType) := (hopen.append (by decide)).append htype
  exact htyped.append (unbroken_memberEnd _ _)

/-- Behind the classes of a document, no line is read as a block. -/
theorem read_closingLines (classes : List Classifier) (blocks : Blocks) :
    ((linesOf (String.join ((closingLines classes).map (· ++ "\n")))).foldl scheme.next
      { read := blocks }).read = blocks := by
  have hheading (lines : List String) :
      (["// Relationships"] ++ lines).foldl scheme.next { read := blocks } = ⟨blocks, .behind⟩ :=
    scheme.foldl_behind blocks lines
  rw [closingLines, ← List.singleton_append, linesOf_join_append,
    linesOf_join_of_unbroken (by decide), hheading]

/-- A reader finds in a document the blocks of the classes. -/
theorem shownBlocks_render {classes : List Classifier} (hlines : ∀ c ∈ classes, OnOwnLines c) :
    shownBlocks (render classes) = (arranged (namespaces classes) classes).blocks shown := by
  have hholds : (arranged (namespaces classes) classes).Holds classes :=
    holds_arranged (nodup_namespaces classes) fun _ => mem_namespaces
  have hread := hholds.readText_eq sound_scheme name_shown (fun _ _ => kind_blockOf_of_isAbstract)
    hlines (fun c hc => unbroken_blockOf (hlines c hc) (fun _ => unbroken_fieldLine)
      fun _ => unbroken_methodLine)
    (List.forall_mem_nil _) (read_closingLines classes _)
  rw [List.nil_append, List.length_nil] at hread
  rw [shownBlocks, render, documentLines_eq_arranged, blockLines, hread]

example : shownBlocks "namespace a \x7b\n    enum B \x7b\n        C\n    \x7d\n\x7d\n" =
    { packages := [("a", [{ kind := .enum, name := "B", members := ["C"] }])] } := by
  decide +kernel

end Aml

/-! ## The main result -/

/-- The class blocks of a PlantUML diagram and of an AML document. Both place each class once, in
its package or outside of all packages, by name, and those of one name in their order. A diagram has
the packages in the order in which the classes mention them, a document in the order of their names;
what is placed in them and outside of them is the same. When what is shown of the classes is on
lines of their own, a reader finds in the document just these blocks in their places, and likewise
in the diagram, when no name of a plain class ends as if the class were a record or an object. -/
theorem render_arranged (layout : Layout) (classes : List Classifier) :
    ∃ diagram document : Arrangement,
      PlantUml.render layout classes = String.join
        ((PlantUml.openingLines layout ++
          PlantUml.layoutLines layout classes.length diagram.packages.length ++
          PlantUml.blockLines diagram ++ PlantUml.closingLines classes).map (· ++ "\n")) ∧
      Aml.render classes = String.join
        ((Aml.blockLines document ++ Aml.closingLines classes).map (· ++ "\n")) ∧
      diagram.Holds classes ∧ document.Holds classes ∧
      (diagram.packages.Pairwise fun a b =>
        (classes.map (·.package)).idxOf (some a.1) <
          (classes.map (·.package)).idxOf (some b.1)) ∧
      (document.packages.Pairwise fun a b => a.1 < b.1) ∧
      diagram.packages.Perm document.packages ∧ diagram.loose = document.loose ∧
      ((∀ c ∈ classes, OnOwnLines c) →
        Aml.shownBlocks (Aml.render classes) = document.blocks Aml.shown ∧
        ((∀ title, layout.title = some title → Unbroken title) → Unbroken layout.lineType →
          (∀ c ∈ classes, PlantUml.Legible (PlantUml.shown c)) →
          PlantUml.shownBlocks (PlantUml.render layout classes) =
            diagram.blocks PlantUml.shown)) := by
  have hpackages := PlantUml.nodup_packages classes
  have hnamespaces := Aml.nodup_namespaces classes
  have hperm : (PlantUml.packages classes).Perm (Aml.namespaces classes) :=
    (List.perm_ext_iff_of_nodup hpackages hnamespaces).mpr fun p =>
      PlantUml.mem_packages.trans Aml.mem_namespaces.symm
  refine ⟨arranged (PlantUml.packages classes) classes, arranged (Aml.namespaces classes) classes,
    ?_, ?_, holds_arranged hpackages fun p => PlantUml.mem_packages,
    holds_arranged hnamespaces fun p => Aml.mem_namespaces, ?_, ?_, hperm.map _, rfl,
    fun hlines => ⟨Aml.shownBlocks_render hlines, fun htitle hkind hlegible =>
      PlantUml.shownBlocks_render htitle hkind hlines hlegible⟩⟩
  · rw [PlantUml.render, PlantUml.documentLines_eq_arranged, arranged, List.length_map]
  · rw [Aml.render, Aml.documentLines_eq_arranged]
  · exact List.pairwise_map.mpr (PlantUml.pairwise_packages classes)
  · exact List.pairwise_map.mpr (Ordered.ascending_toList _)

/-- A signal that can be sent. -/
def signal : Classifier where
  name := "Signal"
  kind := .interface
  methods := [{ name := "send", returnType := "void", visibility := .toAll, isAbstract := true,
                parameters := [{ name := "text", typeName := "String" }] }]

/-- Classes of a harbor: two ships of one name in the fleet, a ship of this name and the record of a
berth in the yard, and a signal outside. -/
def harbor : List Classifier :=
  [{ name := "Ship", kind := .plain, isAbstract := true, package := some "yard" },
    { name := "Ship", kind := .plain, package := some "fleet",
      fields := [{ name := "crew", typeName := "List<Person>", visibility := .toClass }] },
    signal,
    { name := "Berth", kind := .record, package := some "yard" },
    { name := "Ship", kind := .enum, package := some "fleet",
      fields := [{ name := "TUG", typeName := "", visibility := .toAll }] }]

/-- Both texts of the harbor show its classes, and the signal outside of the packages. -/
theorem render_harbor :
    (∀ c ∈ harbor, OnOwnLines c) ∧ (∀ c ∈ harbor, PlantUml.Legible (PlantUml.shown c)) ∧
    ∃ diagram document : Arrangement, diagram.Holds harbor ∧ document.Holds harbor ∧
      PlantUml.shownBlocks (PlantUml.render {} harbor) = diagram.blocks PlantUml.shown ∧
      Aml.shownBlocks (Aml.render harbor) = document.blocks Aml.shown ∧
      (PlantUml.shownBlocks (PlantUml.render {} harbor)).loose =
        [{ kind := .interface, name := "Signal", members := ["+send(String) : void"] }] ∧
      (Aml.shownBlocks (Aml.render harbor)).loose =
        [{ kind := .interface, name := "Signal", members := ["send(String): void [+]"] }] := by
  have hlines : ∀ c ∈ harbor, OnOwnLines c := by decide
  have hlegible : ∀ c ∈ harbor, PlantUml.Legible (PlantUml.shown c) := by decide
  obtain ⟨diagram, document, -, -, hdiagram, hdocument, -, -, -, hsame, hread⟩ :=
    render_arranged {} harbor
  obtain ⟨haml, hpuml⟩ := hread hlines
  have hpuml := hpuml (by decide) (by decide) hlegible
  have hloose : diagram.loose = [signal] := List.perm_singleton.mp hdiagram.loose.perm
  refine ⟨hlines, hlegible, diagram, document, hdiagram, hdocument, hpuml, haml, ?_, ?_⟩
  · have hshown : [signal].map PlantUml.shown =
        [{ kind := .interface, name := "Signal", members := ["+send(String) : void"] }] := by
      decide
    rw [hpuml, ← hshown, ← hloose]
    rfl
  · have hshown : [signal].map Aml.shown =
        [{ kind := .interface, name := "Signal", members := ["send(String): void [+]"] }] := by
      decide
    rw [haml, ← hshown, ← hloose, hsame]
    rfl

end ClassGraph.Diagram
