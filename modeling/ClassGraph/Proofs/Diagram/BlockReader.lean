import Mathlib.Data.List.Basic
import ClassGraph.Model.Basic
import ClassGraph.Proofs.Diagram.Connectors

/-!
# Reading class blocks

What a text shows of its classes are blocks: for each class its kind, its name and the lines of its
members, in the package in which the block stands or outside of all packages (`Blocks`). A scheme
says how a notation marks the lines of packages and classes, and what a reader makes of a line
(`Scheme`). The reader takes line by line and knows no more than where it stands (`Scheme.next`).

`Scheme.Sound.read_blockLines`: a reader that takes each line for what was written finds in the
lines of blocks these blocks again. No block ends early, since the lines of its members are indented
further than the line that ends it (`Scheme.Sound.foldl_classLines`).
-/

namespace ClassGraph.Diagram

/-! ## Beginnings and ends of lines -/

/-- What follows a mark at the beginning of a line. -/
def after? (mark line : String) : Option String :=
  (mark.toList.isPrefixOf? line.toList).map String.ofList

/-- What stands in front of a mark at the end of a line. -/
def before? (mark line : String) : Option String :=
  (mark.toList.isSuffixOf? line.toList).map String.ofList

/-- What follows a mark is found behind it. -/
@[simp]
theorem after?_append (mark s : String) : after? mark (mark ++ s) = some s := by
  have hprefix : mark.toList.isPrefixOf? (mark ++ s).toList = some s.toList :=
    List.isPrefixOf?_eq_some_iff_append_eq.mpr (String.toList_append).symm
  rw [after?, hprefix, Option.map_some, String.ofList_toList]

/-- What stands in front of a mark is found there. -/
@[simp]
theorem before?_append (mark s : String) : before? mark (s ++ mark) = some s := by
  have hsuffix : mark.toList.isSuffixOf? (s ++ mark).toList = some s.toList :=
    List.isSuffixOf?_eq_some_iff_append_eq.mpr (String.toList_append).symm
  rw [before?, hsuffix, Option.map_some, String.ofList_toList]

/-- A line does not begin with a mark when it begins with a word that parts from the mark. -/
theorem after?_eq_none {mark word : String} (s : String)
    (hmark : ¬ mark.toList <+: word.toList) (hword : ¬ word.toList <+: mark.toList) :
    after? mark (word ++ s) = none := by
  rw [after?, Option.map_eq_none_iff, Option.eq_none_iff_forall_ne_some]
  intro rest hrest
  have hline : mark.toList ++ rest = word.toList ++ s.toList := by
    rw [List.isPrefixOf?_eq_some_iff_append_eq.mp hrest, String.toList_append]
  rcases List.prefix_or_prefix_of_prefix (List.prefix_append _ rest)
    (hline ▸ List.prefix_append _ s.toList) with h | h
  · exact hmark h
  · exact hword h

/-- A line does not end with a mark when it ends with a word that parts from the mark. -/
theorem before?_eq_none {mark word : String} (s : String)
    (hmark : ¬ mark.toList <:+ word.toList) (hword : ¬ word.toList <:+ mark.toList) :
    before? mark (s ++ word) = none := by
  rw [before?, Option.map_eq_none_iff, Option.eq_none_iff_forall_ne_some]
  intro rest hrest
  have hline : rest ++ mark.toList = s.toList ++ word.toList := by
    rw [List.isSuffixOf?_eq_some_iff_append_eq.mp hrest, String.toList_append]
  rcases List.suffix_or_suffix_of_suffix (List.suffix_append rest _)
    (hline ▸ List.suffix_append s.toList _) with h | h
  · exact hmark h
  · exact hword h

/-- A line that begins with a mark is none that does not. -/
theorem ne_of_after? {mark line line' s : String} (h : after? mark line = some s)
    (h' : after? mark line' = none) : line ≠ line' := by
  rintro rfl
  cases h.symm.trans h'

/-- A text without a line break. -/
def Unbroken (s : String) : Prop := '\n' ∉ s.toList

instance (s : String) : Decidable (Unbroken s) := inferInstanceAs (Decidable ('\n' ∉ s.toList))

/-- Two texts one behind the other are on one line when both are. -/
theorem unbroken_append {a b : String} : Unbroken (a ++ b) ↔ Unbroken a ∧ Unbroken b := by
  simp [Unbroken]

/-- Two unbroken texts one behind the other are unbroken. -/
theorem Unbroken.append {a b : String} (ha : Unbroken a) (hb : Unbroken b) : Unbroken (a ++ b) :=
  unbroken_append.mpr ⟨ha, hb⟩

/-- A list of texts is on one line when the texts are, and what stands between them. -/
theorem unbroken_intercalate {mark : String} (hmark : Unbroken mark) :
    ∀ {l : List String}, (∀ s ∈ l, Unbroken s) → Unbroken (mark.intercalate l)
  | [], _ => by
    rw [String.intercalate_nil]
    decide
  | [s], h => by
    rw [String.intercalate_singleton]
    exact h s List.mem_cons_self
  | s :: t :: l, h => by
    obtain ⟨hs, hl⟩ := List.forall_mem_cons.mp h
    rw [String.intercalate_cons_cons]
    exact (hs.append hmark).append (unbroken_intercalate hmark hl)

/-- A number is on one line. -/
theorem unbroken_toString (n : Nat) : Unbroken (toString n) := by
  intro hmem
  rw [Nat.toString_eq_repr, Nat.toList_repr] at hmem
  exact Bool.false_ne_true
    ((by decide : '\n'.isDigit = false).symm.trans
      (Nat.isDigit_of_mem_toDigits (by decide) (by decide) hmem))

/-! ## Blocks -/

/-- What the block of a class shows. -/
structure ClassBlock where
  /-- Whether it is marked as abstract. -/
  isAbstract : Bool := false
  /-- The kind of the class. -/
  kind : ClassifierKind
  /-- The name of the class. -/
  name : String
  /-- The lines of its members, without what stands in front of them. -/
  members : List String := []
deriving DecidableEq, Repr

/-- The class blocks of a text, as it places them. -/
structure Blocks where
  /-- The packages in their order, each with its blocks in their order. -/
  packages : List (String × List ClassBlock) := []
  /-- The blocks outside of all packages, in their order. -/
  loose : List ClassBlock := []
deriving DecidableEq, Repr

/-- All blocks have a property. -/
structure Blocks.All (blocks : Blocks) (p : ClassBlock → Prop) : Prop where
  /-- Those in packages have it. -/
  packages : ∀ package ∈ blocks.packages, ∀ block ∈ package.2, p block
  /-- Those outside have it. -/
  loose : ∀ block ∈ blocks.loose, p block

/-- A package that has been opened, with the blocks in it. -/
abbrev OpenPackage := String × List ClassBlock

/-- Where a reader of blocks stands. -/
inductive Position where
  /-- Between classes, in a package or outside of all packages. -/
  | between (package : Option OpenPackage)
  /-- In a class, behind some of its members. -/
  | within (package : Option OpenPackage) (block : ClassBlock)
  /-- Behind all classes. -/
  | behind

/-- What a reader has read. -/
structure Reading where
  /-- The packages that have ended, and the classes outside of them. -/
  read : Blocks := {}
  /-- Where the reader stands. -/
  position : Position := .between none

/-- The reader behind a class, in a package or outside of all packages. -/
def Reading.behindClass (read : Blocks) (block : ClassBlock) : Option OpenPackage → Reading
  | some (name, blocks) => ⟨read, .between (some (name, blocks ++ [block]))⟩
  | none => { read := { read with loose := read.loose ++ [block] } }

/-- How a notation marks packages and classes, and what a reader makes of a line. -/
structure Scheme where
  /-- The line that opens a package. -/
  packageLine : String → String
  /-- The package that a line opens. -/
  package? : String → Option String
  /-- The line that ends a package. -/
  packageEnd : String
  /-- What the line that opens a class says of it. -/
  heading : ClassBlock → String
  /-- The class of which a line says so. -/
  heading? : String → Option ClassBlock
  /-- What stands in front of the lines of a class, in a package and outside. -/
  indent : Bool → String
  /-- What stands in front of the lines of members besides. -/
  memberIndent : String
  /-- What follows a class outside of all packages. -/
  looseGap : List String
  /-- The line behind all classes. -/
  closing : String

/-- When the lines of each element add it to what has been read, those of several elements add all
of them. -/
theorem foldl_flatMap_of_step {σ α β : Type} {f : σ → β → σ} {lines : α → List β} {l : List α}
    (state : List α → σ)
    (h : ∀ a ∈ l, ∀ done, (lines a).foldl f (state done) = state (done ++ [a])) :
    ∀ done, (l.flatMap lines).foldl f (state done) = state (done ++ l) := by
  induction l with
  | nil => intro done; simp
  | cons a l ih =>
    intro done
    obtain ⟨ha, hl⟩ := List.forall_mem_cons.mp h
    rw [List.flatMap_cons, List.foldl_append, ha, ih hl, List.append_assoc, List.singleton_append]

namespace Scheme

/-- The line that opens a class. -/
def classLine (s : Scheme) (inPackage : Bool) (block : ClassBlock) : String :=
  s.indent inPackage ++ s.heading block ++ " \x7b"

/-- The line that ends a class. -/
def classEnd (s : Scheme) (inPackage : Bool) : String := s.indent inPackage ++ "\x7d"

/-- The line of a member. -/
def memberLine (s : Scheme) (inPackage : Bool) (text : String) : String :=
  s.indent inPackage ++ s.memberIndent ++ text

/-- The lines of a class. -/
def classLines (s : Scheme) (inPackage : Bool) (block : ClassBlock) : List String :=
  [s.classLine inPackage block] ++ block.members.map (s.memberLine inPackage) ++
    [s.classEnd inPackage]

/-- The lines of a package. -/
def packageLines (s : Scheme) (package : String × List ClassBlock) : List String :=
  [s.packageLine package.1] ++ package.2.flatMap (s.classLines true) ++ [s.packageEnd, ""]

/-- The lines of a class outside of all packages. -/
def looseLines (s : Scheme) (block : ClassBlock) : List String :=
  s.classLines false block ++ s.looseGap

/-- The lines of blocks. -/
def blockLines (s : Scheme) (blocks : Blocks) : List String :=
  blocks.packages.flatMap s.packageLines ++ blocks.loose.flatMap s.looseLines

/-! ## The reader -/

/-- The class that a line opens. -/
def class? (s : Scheme) (inPackage : Bool) (line : String) : Option ClassBlock := do
  let rest ← after? (s.indent inPackage) line
  s.heading? (← before? " \x7b" rest)

/-- A class with one more member, which a line shows. -/
def withMember (s : Scheme) (inPackage : Bool) (block : ClassBlock) (line : String) :
    ClassBlock :=
  { block with
    members := block.members ++ (after? (s.indent inPackage ++ s.memberIndent) line).toList }

/-- Takes the next line. Between classes, lines that open and end nothing are passed over. -/
def next (s : Scheme) (r : Reading) (line : String) : Reading :=
  match r.position with
  | .between none =>
    if line = s.closing then { r with position := .behind }
    else match s.package? line with
      | some name => { r with position := .between (some (name, [])) }
      | none => match s.class? false line with
        | some block => { r with position := .within none block }
        | none => r
  | .between (some package) =>
    if line = s.packageEnd then
      { read := { r.read with packages := r.read.packages ++ [package] } }
    else match s.class? true line with
      | some block => { r with position := .within (some package) block }
      | none => r
  | .within package block =>
    if line = s.classEnd package.isSome then .behindClass r.read block package
    else { r with position := .within package (s.withMember package.isSome block line) }
  | .behind => r

/-- The blocks that a reader finds in lines. -/
def read (s : Scheme) (lines : List String) : Blocks := (lines.foldl s.next {}).read

/-- The blocks that a reader finds in a text behind the lines in front of its classes. -/
def readText (s : Scheme) (front : Nat) (text : String) : Blocks :=
  s.read ((linesOf text).drop front)

/-- The line that opens a class is indented. -/
theorem after?_classLine (s : Scheme) (inPackage : Bool) (block : ClassBlock) :
    after? (s.indent inPackage) (s.classLine inPackage block) =
      some (s.heading block ++ " \x7b") := by
  rw [classLine, String.append_assoc, after?_append]

/-- The line of a member is read so. -/
theorem withMember_memberLine (s : Scheme) (inPackage : Bool) (block : ClassBlock)
    (text : String) :
    s.withMember inPackage block (s.memberLine inPackage text) =
      { block with members := block.members ++ [text] } := by
  rw [withMember, memberLine, after?_append]
  rfl

/-- Behind the line that follows the classes, nothing is read. -/
theorem foldl_behind (s : Scheme) (blocks : Blocks) (lines : List String) :
    lines.foldl s.next ⟨blocks, .behind⟩ = ⟨blocks, .behind⟩ := by
  induction lines with
  | nil => rfl
  | cons line lines ih => exact ih

/-- What a reader needs of a scheme. -/
structure Sound (s : Scheme) (legible : ClassBlock → Prop) : Prop where
  /-- The line that opens a package is read so. -/
  package?_packageLine : ∀ name, s.package? (s.packageLine name) = some name
  /-- It is not the line behind all classes. -/
  packageLine_ne : ∀ name, s.packageLine name ≠ s.closing
  /-- What is said of a legible class is read so. -/
  heading?_heading : ∀ block, legible block →
    s.heading? (s.heading block) = some { block with members := [] }
  /-- The line that opens a class opens no package, -/
  package?_classLine : ∀ block, legible block → s.package? (s.classLine false block) = none
  /-- ends none, -/
  classLine_ne_packageEnd : ∀ block, legible block → s.classLine true block ≠ s.packageEnd
  /-- and is not the line behind all classes. -/
  classLine_ne_closing : ∀ block, legible block → s.classLine false block ≠ s.closing
  /-- A line of a member is indented further than the line that ends its class. -/
  memberIndent : ∃ rest, s.memberIndent = " " ++ rest
  /-- An empty line says nothing. -/
  next_empty : ∀ blocks, s.next { read := blocks } "" = { read := blocks }
  /-- An empty line is all that may follow a class outside of all packages. -/
  looseGap : s.looseGap = [] ∨ s.looseGap = [""]
  /-- No line of a package is broken. -/
  unbroken_packageLine : ∀ name, Unbroken name → Unbroken (s.packageLine name)
  /-- Nor is the line that ends one, -/
  unbroken_packageEnd : Unbroken s.packageEnd
  /-- nor what is said of a class, -/
  unbroken_heading : ∀ block, Unbroken block.name → Unbroken (s.heading block)
  /-- nor what stands in front of the lines of a class -/
  unbroken_indent : ∀ inPackage, Unbroken (s.indent inPackage)
  /-- and of its members. -/
  unbroken_memberIndent : Unbroken s.memberIndent

namespace Sound

variable {s : Scheme} {legible : ClassBlock → Prop} (h : s.Sound legible)

include h

/-- The line that opens a class is read so. -/
theorem class?_classLine (inPackage : Bool) {block : ClassBlock} (hblock : legible block) :
    s.class? inPackage (s.classLine inPackage block) = some { block with members := [] } := by
  rw [class?, after?_classLine]
  change (before? _ _ >>= _) = _
  rw [before?_append]
  exact h.heading?_heading block hblock

/-- The line of a member does not end its class. -/
theorem memberLine_ne (inPackage : Bool) (text : String) :
    s.memberLine inPackage text ≠ s.classEnd inPackage := by
  obtain ⟨rest, hrest⟩ := h.memberIndent
  intro heq
  have hlist := congrArg String.toList heq
  simp [memberLine, classEnd, hrest] at hlist

/-- The line that opens a class leads into it. -/
theorem next_classLine (blocks : Blocks) (package : Option OpenPackage) {block : ClassBlock}
    (hblock : legible block) :
    s.next ⟨blocks, .between package⟩ (s.classLine package.isSome block) =
      ⟨blocks, .within package { block with members := [] }⟩ := by
  have hclass := h.class?_classLine package.isSome hblock
  cases package with
  | none =>
    rw [Option.isSome_none] at hclass ⊢
    simp only [next, if_neg (h.classLine_ne_closing block hblock),
      h.package?_classLine block hblock, hclass]
  | some package =>
    rw [Option.isSome_some] at hclass ⊢
    simp only [next, if_neg (h.classLine_ne_packageEnd block hblock), hclass]

/-- The lines of a class are read as its block. -/
theorem foldl_classLines (blocks : Blocks) (package : Option OpenPackage) {block : ClassBlock}
    (hblock : legible block) :
    (s.classLines package.isSome block).foldl s.next ⟨blocks, .between package⟩ =
      .behindClass blocks block package := by
  -- Within the class each line adds a member, since none of them ends the class.
  have hmember : ∀ text ∈ block.members, ∀ done,
      [s.memberLine package.isSome text].foldl s.next
          ⟨blocks, .within package { block with members := done }⟩ =
        ⟨blocks, .within package { block with members := done ++ [text] }⟩ := by
    intro text _ done
    rw [List.foldl_cons, List.foldl_nil]
    simp only [next, if_neg (h.memberLine_ne _ text), withMember_memberLine]
  have hmembers := foldl_flatMap_of_step _ hmember []
  have hend : s.next ⟨blocks, .within package block⟩ (s.classEnd package.isSome) =
      .behindClass blocks block package := if_pos rfl
  simp only [classLines, List.map_eq_flatMap, List.foldl_append, List.foldl_cons, List.foldl_nil]
  rw [h.next_classLine blocks package hblock, hmembers, List.nil_append, hend]

/-- The lines of a package are read as the package with its blocks. -/
theorem foldl_packageLines (blocks : Blocks) (package : String × List ClassBlock)
    (hpackage : ∀ block ∈ package.2, legible block) :
    (s.packageLines package).foldl s.next { read := blocks } =
      { read := { blocks with packages := blocks.packages ++ [package] } } := by
  have hopen : s.next { read := blocks } (s.packageLine package.1) =
      ⟨blocks, .between (some (package.1, []))⟩ := by
    simp only [next, if_neg (h.packageLine_ne _), h.package?_packageLine]
  have hclass : ∀ block ∈ package.2, ∀ done,
      (s.classLines true block).foldl s.next ⟨blocks, .between (some (package.1, done))⟩ =
        ⟨blocks, .between (some (package.1, done ++ [block]))⟩ := fun block hblock done =>
    h.foldl_classLines blocks (some (package.1, done)) (hpackage block hblock)
  have hclasses := foldl_flatMap_of_step _ hclass []
  have hend : s.next ⟨blocks, .between (some package)⟩ s.packageEnd =
      { read := { blocks with packages := blocks.packages ++ [package] } } := if_pos rfl
  simp only [packageLines, List.foldl_append, List.foldl_cons, List.foldl_nil]
  rw [hopen, hclasses, List.nil_append, hend, h.next_empty]

/-- The lines of a class outside of all packages are read as its block. -/
theorem foldl_looseLines (blocks : Blocks) {block : ClassBlock} (hblock : legible block) :
    (s.looseLines block).foldl s.next { read := blocks } =
      { read := { blocks with loose := blocks.loose ++ [block] } } := by
  have hclass : (s.classLines false block).foldl s.next { read := blocks } =
      { read := { blocks with loose := blocks.loose ++ [block] } } :=
    h.foldl_classLines blocks none hblock
  rw [looseLines, List.foldl_append, hclass]
  rcases h.looseGap with hgap | hgap
  · rw [hgap, List.foldl_nil]
  · rw [hgap, List.foldl_cons, h.next_empty, List.foldl_nil]

/-- A reader finds in the lines of blocks these blocks. -/
theorem foldl_blockLines {blocks : Blocks} (hblocks : blocks.All legible) :
    (s.blockLines blocks).foldl s.next {} = { read := blocks } := by
  -- The packages are read one after the other, and then the classes outside of them.
  have hpackages := foldl_flatMap_of_step (fun done => ({ read := { packages := done } } : Reading))
    (fun package hpackage done => h.foldl_packageLines { packages := done } package
      (hblocks.packages package hpackage)) []
  have hloose := foldl_flatMap_of_step
    (fun done => ({ read := { blocks with loose := done } } : Reading))
    (fun block hblock done => h.foldl_looseLines { blocks with loose := done }
      (hblocks.loose block hblock)) []
  rw [List.nil_append] at hpackages hloose
  rw [blockLines, List.foldl_append]
  exact (congrArg (List.foldl _ · _) hpackages).trans hloose

/-! ## Texts -/

/-- No line of a class is broken. -/
theorem unbroken_classLines (inPackage : Bool) {block : ClassBlock} (hname : Unbroken block.name)
    (hmembers : ∀ text ∈ block.members, Unbroken text) :
    ∀ line ∈ s.classLines inPackage block, Unbroken line := by
  have hindent := h.unbroken_indent inPackage
  simp only [classLines, List.forall_mem_append, List.forall_mem_singleton, List.forall_mem_map,
    classLine, memberLine, classEnd, unbroken_append]
  exact ⟨⟨⟨⟨hindent, h.unbroken_heading block hname⟩, by decide⟩,
    fun text htext => ⟨⟨hindent, h.unbroken_memberIndent⟩, hmembers text htext⟩⟩,
    hindent, by decide⟩

/-- No line of blocks is broken. -/
theorem unbroken_blockLines {blocks : Blocks}
    (hpackages : ∀ package ∈ blocks.packages, Unbroken package.1)
    (hnames : blocks.All fun block => Unbroken block.name)
    (hmembers : blocks.All fun block => ∀ text ∈ block.members, Unbroken text) :
    ∀ line ∈ s.blockLines blocks, Unbroken line := by
  have hgap : ∀ line ∈ s.looseGap, Unbroken line := by
    rcases h.looseGap with hgap | hgap <;> rw [hgap] <;> decide
  simp only [blockLines, packageLines, looseLines, List.forall_mem_append, List.forall_mem_flatMap,
    List.forall_mem_singleton, List.forall_mem_cons]
  refine ⟨fun package hpackage => ⟨⟨?_, fun block hblock => ?_⟩, h.unbroken_packageEnd, ?_⟩,
    fun block hblock => ⟨?_, hgap⟩⟩
  · exact h.unbroken_packageLine _ (hpackages package hpackage)
  · exact h.unbroken_classLines true (hnames.packages package hpackage block hblock)
      (hmembers.packages package hpackage block hblock)
  · decide
  · exact h.unbroken_classLines false (hnames.loose block hblock) (hmembers.loose block hblock)

/-- A reader finds in a text the blocks whose lines stand behind those in front of the classes, when
nothing that follows is read as a block. -/
theorem readText_eq {blocks : Blocks} (hlegible : blocks.All legible)
    (hunbroken : ∀ line ∈ s.blockLines blocks, Unbroken line) {front behind : List String}
    (hfront : ∀ line ∈ front, Unbroken line)
    (hbehind : ((linesOf (String.join (behind.map (· ++ "\n")))).foldl s.next
      { read := blocks }).read = blocks) :
    s.readText front.length
        (String.join ((front ++ s.blockLines blocks ++ behind).map (· ++ "\n"))) = blocks := by
  have hlines : linesOf (String.join ((front ++ s.blockLines blocks ++ behind).map (· ++ "\n"))) =
      front ++ (s.blockLines blocks ++ linesOf (String.join (behind.map (· ++ "\n")))) := by
    rw [linesOf_join_append,
      linesOf_join_of_unbroken (List.forall_mem_append.mpr ⟨hfront, hunbroken⟩), List.append_assoc]
  rw [readText, hlines, List.drop_left, read, List.foldl_append, h.foldl_blockLines hlegible,
    hbehind]

end Sound

end Scheme

end ClassGraph.Diagram
