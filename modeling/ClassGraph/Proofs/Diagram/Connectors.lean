import Mathlib.Data.List.DropRight
import Mathlib.Data.List.TakeWhile
import ClassGraph.Diagram.Aml
import ClassGraph.Diagram.PlantUml
import ClassGraph.Proofs.Model.Relations
import ClassGraph.Proofs.Ordered
import ClassGraph.Text.Basic

/-!
# The connectors of both notations

`render_connections`: when all names are words, the lines of connectors in a PlantUML diagram and in
an AML document are in ascending order, and, read by their arrows, they say the same, each thing
once: what the classes draw (`Draws`). A reader of connectors undoes a notation when it finds in
each line what was written (`Readable.read_write`); what is drawn then follows for both notations
at once (`Readable.exists_connections`), as does where the lines of connectors begin
(`Readable.rtakeWhile_connectorLines`), although the members of classes may be any text.
-/

namespace ClassGraph.Diagram

/-! ## What is drawn -/

/-- What a class draws, with the name of the other class. -/
inductive Draws (c : Classifier) : Connector → String → Prop
  /-- The class that it extends. -/
  | superclass {name : String} : c.superclass = some name → Draws c .inheritance name
  /-- An interface that it names. -/
  | interface {name : String} : name ∈ c.interfaces → Draws c .realization name
  /-- Another type that it is related to by its structure. -/
  | structural {kind : RelationKind} {name : String} : kind.isStructural = true → name ≠ c.name →
      (∃ r ∈ c.relations, r.kind = kind ∧ r.target = name) → Draws c (.relation kind) name
  /-- Another type that it only depends on. -/
  | dependency {name : String} : name ≠ c.name →
      (∃ r ∈ c.relations, r.kind = .dependency ∧ r.target = name) →
      (¬ ∃ r ∈ c.relations, r.kind.isStructural = true ∧ r.target = name) →
      Draws c (.relation .dependency) name

/-- A relation is not structural when it is a dependency. -/
theorem isStructural_eq_false_iff {kind : RelationKind} :
    kind.isStructural = false ↔ kind = .dependency := by
  cases kind <;> decide

/-- The structural kinds are associations, aggregations and compositions. -/
theorem mem_structural_iff {kind : RelationKind} :
    kind ∈ [RelationKind.association, .aggregation, .composition] ↔ kind.isStructural = true := by
  cases kind <;> decide

/-- The relations to a type are all dependencies when none of them is structural. -/
theorem all_dependency_iff {c : Classifier} {name : String} :
    (∀ r ∈ c.relations, r.target = name → r.kind = .dependency) ↔
      ¬ ∃ r ∈ c.relations, r.kind.isStructural = true ∧ r.target = name := by
  simp only [← isStructural_eq_false_iff, not_exists, not_and, Bool.eq_false_iff]
  exact forall₂_congr fun _ _ => imp_not_comm

/-- The connectors of a class are what it draws. -/
theorem mem_connectorsOf {c : Classifier} {connector : Connector} {name : String} :
    (connector, name) ∈ connectorsOf c ↔ Draws c connector name := by
  unfold connectorsOf
  simp only [List.mem_append, List.mem_map, List.mem_flatMap, Option.mem_toList, Prod.mk.injEq,
    mem_structural_iff, Classifier.mem_targets, Classifier.mem_uncoveredDependencies,
    all_dependency_iff]
  constructor
  · rintro (((⟨_, hsuper, rfl, rfl⟩ | ⟨_, hrole, rfl, rfl⟩) |
      ⟨kind, hkind, _, ⟨hne, hr⟩, rfl, rfl⟩) | ⟨_, ⟨hne, hr, hnone⟩, rfl, rfl⟩)
    · exact .superclass hsuper
    · exact .interface hrole
    · exact .structural hkind hne hr
    · exact .dependency hne hr hnone
  · intro h
    cases h with
    | superclass hsuper => exact .inl (.inl (.inl ⟨_, hsuper, rfl, rfl⟩))
    | interface hrole => exact .inl (.inl (.inr ⟨_, hrole, rfl, rfl⟩))
    | structural hkind hne hr => exact .inl (.inr ⟨_, hkind, _, ⟨hne, hr⟩, rfl, rfl⟩)
    | dependency hne hr hnone => exact .inr ⟨_, ⟨hne, hr, hnone⟩, rfl, rfl⟩

/-- Another type that a class is related to is drawn by its structure or as what the class depends
on, and not as both. -/
theorem xor_of_mem_relations {c : Classifier} {r : Relation} (hr : r ∈ c.relations)
    (hne : r.target ≠ c.name) :
    Xor (∃ kind : RelationKind, kind.isStructural = true ∧
        (Connector.relation kind, r.target) ∈ connectorsOf c)
      ((Connector.relation .dependency, r.target) ∈ connectorsOf c) := by
  simp only [mem_connectorsOf]
  by_cases hsome : ∃ r' ∈ c.relations, r'.kind.isStructural = true ∧ r'.target = r.target
  · refine .inl ⟨?_, fun h => ?_⟩
    · obtain ⟨r', hr', hkind, htarget⟩ := hsome
      exact ⟨r'.kind, hkind, .structural hkind hne ⟨r', hr', rfl, htarget⟩⟩
    · cases h with
      | structural hkind => cases hkind
      | dependency _ _ hnone => exact hnone hsome
  · refine .inr ⟨.dependency hne ⟨r, hr, all_dependency_iff.mpr hsome r hr rfl, rfl⟩ hsome, ?_⟩
    rintro ⟨kind, hkind, h⟩
    cases h with
    | structural _ _ hr' =>
      obtain ⟨r', hr', rfl, htarget⟩ := hr'
      exact hsome ⟨r', hr', hkind, htarget⟩
    | dependency => cases hkind

/-- What a line between two classes says, with the names of the classes. -/
structure Connection where
  /-- The class that draws the line. -/
  source : String
  /-- What it says of the other class. -/
  connector : Connector
  /-- The other class. -/
  target : String
deriving DecidableEq, Repr

/-- A connection that one of the classes of this name draws. -/
def Drawn (classes : List Classifier) (x : Connection) : Prop :=
  ∃ c ∈ classes, c.name = x.source ∧ Draws c x.connector x.target

/-! ## Names and words -/

/-- A name that is one word: it is not empty, and no blank stands in it. -/
def IsWord (s : String) : Prop := s ≠ "" ∧ ∀ c ∈ s.toList, Text.isSpace c = false

instance (s : String) : Decidable (IsWord s) :=
  decidable_of_iff (s ≠ "" ∧ s.toList.all fun c => !Text.isSpace c) (by simp [IsWord])

/-- All names that a class draws are words. -/
structure Worded (c : Classifier) : Prop where
  /-- Its own name is one. -/
  name : IsWord c.name
  /-- The name of its superclass is one. -/
  superclass : ∀ {name : String}, c.superclass = some name → IsWord name
  /-- The names of its interfaces are. -/
  interfaces : ∀ name ∈ c.interfaces, IsWord name
  /-- The names of the types that it is related to are. -/
  targets : ∀ r ∈ c.relations, IsWord r.target

/-- A class whose names are words draws to words. -/
theorem Worded.isWord_of_draws {c : Classifier} (h : Worded c) {connector : Connector}
    {name : String} (hdraws : Draws c connector name) : IsWord name := by
  cases hdraws with
  | superclass hsuper => exact h.superclass hsuper
  | interface hrole => exact h.interfaces _ hrole
  | structural _ _ hr =>
    obtain ⟨r, hr, -, rfl⟩ := hr
    exact h.targets r hr
  | dependency _ hr =>
    obtain ⟨r, hr, -, rfl⟩ := hr
    exact h.targets r hr

/-- The words of a line. -/
def wordsOf (line : String) : List String := (Text.words line.toList).map String.ofList

/-- Characters that are no blanks go on the first word of what follows them. -/
theorem wordsFrom_append {w : List Char} (hw : ∀ c ∈ w, Text.isSpace c = false) (rest : List Char) :
    Text.wordsFrom (w ++ rest) = (w ++ (Text.wordsFrom rest).1, (Text.wordsFrom rest).2) := by
  induction w with
  | nil => rfl
  | cons c w ih =>
    obtain ⟨hc, hw⟩ := List.forall_mem_cons.mp hw
    rw [List.cons_append, Text.wordsFrom, ih hw]
    simp [hc]

/-- A word is the one word of its text. -/
theorem wordsOf_word {s : String} (h : IsWord s) : wordsOf s = [s] := by
  have hwords := wordsFrom_append h.2 []
  rw [List.append_nil, Text.wordsFrom, List.append_nil] at hwords
  simp [wordsOf, Text.words, hwords, h.1]

/-- A word in front of a blank is the first word of a line. -/
theorem wordsOf_append {s : String} (h : IsWord s) (line : String) :
    wordsOf (s ++ " " ++ line) = s :: wordsOf line := by
  have hblank : Text.isSpace ' ' = true := by decide
  have hlist : (s ++ " " ++ line).toList = s.toList ++ ' ' :: line.toList := by simp
  rw [wordsOf, hlist, Text.words, wordsFrom_append h.2]
  simp [Text.wordsFrom, hblank, h.1, wordsOf, Text.words]

/-- A word holds no line break. -/
theorem newline_notMem_of_isWord {s : String} (h : IsWord s) : '\n' ∉ s.toList :=
  fun hmem => Bool.false_ne_true ((h.2 _ hmem).symm.trans (by decide))

/-! ## Lines -/

/-- The lines of a text, each of which a break ends. -/
def linesOf (text : String) : List String :=
  (text.toList.splitOn '\n').dropLast.map String.ofList

/-- A text that is joined of lines is cut behind each of them, and each line is cut on its own. -/
theorem splitOn_join_lines (lines : List String) :
    (String.join (lines.map (· ++ "\n"))).toList.splitOn '\n' =
      (lines.flatMap fun line => line.toList.splitOn '\n') ++ [[]] := by
  induction lines with
  | nil => rfl
  | cons line lines ih =>
    have hline : (line ++ "\n" ++ String.join (lines.map (· ++ "\n"))).toList =
        line.toList ++ '\n' :: (String.join (lines.map (· ++ "\n"))).toList := by simp
    rw [List.map_cons, String.join_cons, hline, List.splitOn_append_cons_self, ih,
      List.flatMap_cons, List.append_assoc]

/-- The lines of a text that is joined of lines are those of its lines. -/
theorem linesOf_join (lines : List String) : linesOf (String.join (lines.map (· ++ "\n"))) =
    lines.flatMap fun line => (line.toList.splitOn '\n').map String.ofList := by
  rw [linesOf, splitOn_join_lines, List.dropLast_concat, List.map_flatMap]

/-- Lines that hold no break are the lines of the text that is joined of them. -/
theorem linesOf_join_of_unbroken {lines : List String} (h : ∀ line ∈ lines, '\n' ∉ line.toList) :
    linesOf (String.join (lines.map (· ++ "\n"))) = lines := by
  have hone : ∀ line ∈ lines, (line.toList.splitOn '\n').map String.ofList = [line] :=
    fun line hline => by simp [List.splitOn_eq_singleton (h line hline)]
  rw [linesOf_join, List.flatMap_congr hone, List.flatMap_singleton']

/-- The lines of a text that is joined of two lists of lines are those of the one and the other. -/
theorem linesOf_join_append (front lines : List String) :
    linesOf (String.join ((front ++ lines).map (· ++ "\n"))) =
      linesOf (String.join (front.map (· ++ "\n"))) ++
        linesOf (String.join (lines.map (· ++ "\n"))) := by
  rw [linesOf_join, linesOf_join, linesOf_join, List.flatMap_append]

/-- The longest end of a list on which a predicate holds stands behind the last member on which it
does not. -/
theorem rtakeWhile_append_of_neg {p : String → Bool} {front lines : List String} {last : String}
    (hlast : p last = false) (hlines : ∀ line ∈ lines, p line = true) :
    (front ++ [last] ++ lines).rtakeWhile p = lines := by
  rw [List.rtakeWhile, List.reverse_append, List.takeWhile_append_of_pos (by simpa using hlines)]
  simp [hlast]

/-! ## Notations -/

/-- What a reader of connectors needs of the way they are written. -/
structure Readable (write : String → Connector → String → String)
    (read? : String → Option Connection) : Prop where
  /-- A connector between words is read as what was written. -/
  read_write : ∀ {source target : String} (connector : Connector), IsWord source → IsWord target →
    read? (write source connector target) = some ⟨source, connector, target⟩
  /-- The line of a connector between words holds no break. -/
  newline_notMem : ∀ {source target : String} (connector : Connector), IsWord source →
    IsWord target → '\n' ∉ (write source connector target).toList

section

variable {write : String → Connector → String → String} {read? : String → Option Connection}
  {classes : List Classifier}

/-- There is a line for everything that is drawn, and no other. -/
theorem mem_connectorLines {line : String} :
    line ∈ connectorLines write classes ↔
      ∃ x, Drawn classes x ∧ write x.source x.connector x.target = line := by
  unfold connectorLines
  rw [Std.ExtTreeSet.mem_toList, Ordered.mem_set_ofList]
  simp only [List.mem_flatMap, List.mem_map, Prod.exists, mem_connectorsOf]
  constructor
  · rintro ⟨c, hc, connector, target, hdraws, rfl⟩
    exact ⟨⟨c.name, connector, target⟩, ⟨c, hc, rfl, hdraws⟩, rfl⟩
  · rintro ⟨⟨_, connector, target⟩, ⟨c, hc, rfl, hdraws⟩, rfl⟩
    exact ⟨c, hc, connector, target, hdraws, rfl⟩

/-- The lines are in ascending order. -/
theorem pairwise_connectorLines : (connectorLines write classes).Pairwise (· < ·) :=
  Ordered.ascending_toList _

/-- The two names of a connection that is drawn are words. -/
theorem isWord_of_drawn (h : ∀ c ∈ classes, Worded c) {x : Connection} (hx : Drawn classes x) :
    IsWord x.source ∧ IsWord x.target := by
  obtain ⟨c, hc, hname, hdraws⟩ := hx
  exact ⟨hname ▸ (h c hc).name, (h c hc).isWord_of_draws hdraws⟩

namespace Readable

variable (hr : Readable write read?) (h : ∀ c ∈ classes, Worded c)

include hr h

/-- The line of a connection that is drawn is read as this connection. -/
theorem read_of_drawn {x : Connection} (hx : Drawn classes x) :
    read? (write x.source x.connector x.target) = some x := by
  obtain ⟨hsource, htarget⟩ := isWord_of_drawn h hx
  exact hr.read_write x.connector hsource htarget

/-- No line of a connector holds a line break. -/
theorem newline_notMem_connectorLines :
    ∀ line ∈ connectorLines write classes, '\n' ∉ line.toList := by
  intro line hline
  obtain ⟨x, hx, rfl⟩ := mem_connectorLines.mp hline
  obtain ⟨hsource, htarget⟩ := isWord_of_drawn h hx
  exact hr.newline_notMem x.connector hsource htarget

/-- Behind a line that shows no connector, those that do are the lines of the connectors. -/
theorem rtakeWhile_connectorLines {front : List String} {last : String}
    (hlast : read? last = none) :
    (front ++ [last] ++ connectorLines write classes).rtakeWhile
      (fun line => (read? line).isSome) = connectorLines write classes := by
  refine rtakeWhile_append_of_neg (by simp [hlast]) fun line hline => ?_
  obtain ⟨x, hx, rfl⟩ := mem_connectorLines.mp hline
  rw [hr.read_of_drawn h hx]
  rfl

/-- The lines are read as what the classes draw, each thing once. -/
theorem exists_connections :
    ∃ drawn : List Connection, (connectorLines write classes).map read? = drawn.map some ∧
      drawn.Nodup ∧ ∀ x, x ∈ drawn ↔ Drawn classes x := by
  -- A line is what was written for that which it is read as.
  have hread : ∀ line ∈ connectorLines write classes, ∃ x, Drawn classes x ∧
      read? line = some x ∧ write x.source x.connector x.target = line := by
    intro line hline
    obtain ⟨x, hx, rfl⟩ := mem_connectorLines.mp hline
    exact ⟨x, hx, hr.read_of_drawn h hx, rfl⟩
  have hmap : (connectorLines write classes).map read? =
      ((connectorLines write classes).filterMap read?).map some := by
    rw [List.map_filterMap, ← List.filterMap_eq_map]
    refine List.filterMap_congr fun line hline => ?_
    obtain ⟨x, -, hx, -⟩ := hread line hline
    simp [hx]
  refine ⟨(connectorLines write classes).filterMap read?, hmap, ?_, fun x => ?_⟩
  · refine List.Nodup.of_map some (hmap ▸ List.pairwise_map.mpr ?_)
    refine (Ordered.nodup_toList _).imp_of_mem fun {a b} ha hb hne heq => hne ?_
    obtain ⟨x, -, hx, rfl⟩ := hread a ha
    obtain ⟨y, -, hy, rfl⟩ := hread b hb
    rw [Option.some.inj (hx.symm.trans (heq.trans hy))]
  · rw [List.mem_filterMap]
    constructor
    · rintro ⟨line, hline, hx⟩
      obtain ⟨y, hdrawn, hy, -⟩ := hread line hline
      exact Option.some.inj (hx.symm.trans hy) ▸ hdrawn
    · exact fun hx => ⟨_, mem_connectorLines.mpr ⟨x, hx, rfl⟩, hr.read_of_drawn h hx⟩

end Readable

end

/-! ### Lines of words -/

/-- A text with a blank in front of it and one behind. -/
def between (s : String) : String := " " ++ s ++ " "

/-- A line of two words with an arrow between them. -/
theorem wordsOf_arrow {source arrow target : String} (hs : IsWord source) (ha : IsWord arrow)
    (ht : IsWord target) :
    wordsOf (source ++ between arrow ++ target) = [source, arrow, target] := by
  have hline : source ++ between arrow ++ target = source ++ " " ++ (arrow ++ " " ++ target) := by
    simp only [between, String.append_assoc]
  rw [hline, wordsOf_append hs, wordsOf_append ha, wordsOf_word ht]

/-- A line of two words with an arrow between them and two more words behind. -/
theorem wordsOf_markedArrow {source arrow target mark name : String} (hs : IsWord source)
    (ha : IsWord arrow) (ht : IsWord target) (hm : IsWord mark) (hn : IsWord name) :
    wordsOf (source ++ between arrow ++ target ++ between mark ++ name) =
      [source, arrow, target, mark, name] := by
  have hline : source ++ between arrow ++ target ++ between mark ++ name =
      source ++ " " ++ (arrow ++ " " ++ (target ++ " " ++ (mark ++ " " ++ name))) := by
    simp only [between, String.append_assoc]
  rw [hline, wordsOf_append hs, wordsOf_append ha, wordsOf_append ht, wordsOf_append hm,
    wordsOf_word hn]

/-- A word between blanks holds no line break. -/
theorem newline_notMem_between {s : String} (h : IsWord s) : '\n' ∉ (between s).toList := by
  simp [between, newline_notMem_of_isWord h]

/-! ### PlantUML -/

namespace PlantUml

/-- The arrow of a connector. -/
def arrow : Connector → String
  | .inheritance => "<|--"
  | .realization => "<|.."
  | .relation .composition => "*--"
  | .relation .aggregation => "o--"
  | .relation .association => "-->"
  | .relation .dependency => "..>"

/-- What a line of a diagram says of two classes, by its arrow. -/
def connection? (line : String) : Option Connection :=
  match wordsOf line with
  | [left, "<|--", right] => some ⟨right, .inheritance, left⟩
  | [left, "<|..", right] => some ⟨right, .realization, left⟩
  | [left, "*--", right] => some ⟨left, .relation .composition, right⟩
  | [left, "o--", right] => some ⟨left, .relation .aggregation, right⟩
  | [left, "-->", right] => some ⟨left, .relation .association, right⟩
  | [left, "..>", right] => some ⟨left, .relation .dependency, right⟩
  | _ => none

/-- The arrow of a connector is a word. -/
theorem isWord_arrow (connector : Connector) : IsWord (arrow connector) := by
  rcases connector with _ | _ | (_ | _ | _ | _) <;> decide

/-- A line has an arrow between two words; the arrow of a supertype points to the left. -/
theorem connectorLine_eq (source : String) (connector : Connector) (target : String) :
    connectorLine source connector target =
      if connector = .inheritance ∨ connector = .realization then
        target ++ between (arrow connector) ++ source
      else source ++ between (arrow connector) ++ target := by
  rcases connector with _ | _ | (_ | _ | _ | _) <;> rfl

/-- The connectors of a diagram can be read from their lines. -/
theorem readable : Readable connectorLine connection? where
  read_write connector hs ht := by
    have hright := wordsOf_arrow hs (isWord_arrow connector) ht
    have hleft := wordsOf_arrow ht (isWord_arrow connector) hs
    rw [connection?, connectorLine_eq]
    rcases connector with _ | _ | (_ | _ | _ | _)
    · rw [if_pos (by decide), hleft]
      rfl
    · rw [if_pos (by decide), hleft]
      rfl
    all_goals
      rw [if_neg (by decide), hright]
      rfl
  newline_notMem connector hs ht := by
    have harrow := newline_notMem_between (isWord_arrow connector)
    rw [connectorLine_eq]
    split_ifs <;>
      simp [newline_notMem_of_isWord hs, newline_notMem_of_isWord ht, harrow]

end PlantUml

/-! ### Aetheris Modeling Language -/

namespace Aml

/-- The arrow of a connector. -/
def arrow : Connector → String
  | .inheritance => "--|>"
  | .realization => "..|>"
  | .relation .composition => "*--"
  | .relation .aggregation => "o--"
  | .relation .association => "->"
  | .relation .dependency => "..>"

/-- The kind of relation that an arrow stands for. -/
def kind? : String → Option RelationKind
  | "*--" => some .composition
  | "o--" => some .aggregation
  | "->" => some .association
  | "..>" => some .dependency
  | _ => none

/-- What a line of a document says of two classes, by its arrow; a relation is named once more
behind them. -/
def connection? (line : String) : Option Connection :=
  match wordsOf line with
  | [left, "--|>", right] => some ⟨left, .inheritance, right⟩
  | [left, "..|>", right] => some ⟨left, .realization, right⟩
  | [left, arrow, right, "[type:", name] => do
    let kind ← kind? arrow
    if name = kind.name ++ "]" then some ⟨left, .relation kind, right⟩ else none
  | _ => none

/-- The arrow of a connector is a word. -/
theorem isWord_arrow (connector : Connector) : IsWord (arrow connector) := by
  rcases connector with _ | _ | (_ | _ | _ | _) <;> decide

/-- The name of a kind with the bracket behind it is a word. -/
theorem isWord_kindName (kind : RelationKind) : IsWord (kind.name ++ "]") := by
  cases kind <;> decide

/-- The mark in front of the name of a kind is a word. -/
theorem isWord_mark : IsWord "[type:" := by decide

/-- The line of a relation. -/
theorem connectorLine_relation (source : String) (kind : RelationKind) (target : String) :
    connectorLine source (.relation kind) target =
      source ++ between (arrow (.relation kind)) ++ target ++ between "[type:" ++
        (kind.name ++ "]") := by
  cases kind <;> simp only [connectorLine, between, arrow, String.append_assoc] <;> rfl

/-- The line of a supertype. -/
theorem connectorLine_super {connector : Connector}
    (h : connector = .inheritance ∨ connector = .realization) (source target : String) :
    connectorLine source connector target = source ++ between (arrow connector) ++ target := by
  rcases h with rfl | rfl <;> rfl

/-- The connectors of a document can be read from their lines. -/
theorem readable : Readable connectorLine connection? where
  read_write connector hs ht := by
    cases connector with
    | inheritance =>
      rw [connection?, connectorLine_super (.inl rfl), wordsOf_arrow hs (isWord_arrow _) ht]
      rfl
    | realization =>
      rw [connection?, connectorLine_super (.inr rfl), wordsOf_arrow hs (isWord_arrow _) ht]
      rfl
    | relation kind =>
      rw [connection?, connectorLine_relation,
        wordsOf_markedArrow hs (isWord_arrow _) ht isWord_mark (isWord_kindName kind)]
      cases kind <;> rfl
  newline_notMem connector hs ht := by
    have hs := newline_notMem_of_isWord hs
    have ht := newline_notMem_of_isWord ht
    have harrow := newline_notMem_between (isWord_arrow connector)
    cases connector with
    | inheritance => simp [connectorLine_super (.inl rfl), hs, ht, harrow]
    | realization => simp [connectorLine_super (.inr rfl), hs, ht, harrow]
    | relation kind =>
      have hmark := newline_notMem_between isWord_mark
      have hname := newline_notMem_of_isWord (isWord_kindName kind)
      rw [String.toList_append, List.mem_append, not_or] at hname
      simp [connectorLine_relation, hs, ht, harrow, hmark, hname]

end Aml

/-! ## Diagrams -/

/-- The lines of a document that show connectors: its last ones. -/
def Aml.shownConnectors (text : String) : List String :=
  (linesOf text).rtakeWhile fun line => (connection? line).isSome

/-- The lines of a diagram that show connectors: the last ones in front of the line that ends it. -/
def PlantUml.shownConnectors (text : String) : List String :=
  (linesOf text).dropLast.rtakeWhile fun line => (connection? line).isSome

section

variable {classes : List Classifier} (h : ∀ c ∈ classes, Worded c)

include h

/-- The connectors of a document are found behind their heading. -/
theorem Aml.shownConnectors_render :
    shownConnectors (render classes) = connectorLines connectorLine classes := by
  have hbreaks : ∀ line ∈ "// Relationships" :: connectorLines connectorLine classes,
      '\n' ∉ line.toList :=
    List.forall_mem_cons.mpr ⟨by decide, readable.newline_notMem_connectorLines h⟩
  unfold shownConnectors render documentLines
  obtain ⟨namespaces, loose⟩ := classes.foldl place (∅, [])
  dsimp only
  rw [List.append_assoc, List.singleton_append, linesOf_join_append,
    linesOf_join_of_unbroken hbreaks, List.append_cons]
  exact readable.rtakeWhile_connectorLines h (by decide)

end

namespace PlantUml

/-- Lines that end as a class, a package or a heading does, and not as a connector. -/
def Closed (lines : List String) : Prop :=
  ∃ front last, lines = front ++ [last] ∧ (last = "" ∨ last = "    \x7d")

/-- Lines stay closed behind others. -/
theorem Closed.append {lines : List String} (h : Closed lines) (front : List String) :
    Closed (front ++ lines) := by
  obtain ⟨before, last, rfl, hlast⟩ := h
  exact ⟨front ++ before, last, (List.append_assoc ..).symm, hlast⟩

/-- Blocks of lines that are closed keep lines closed. -/
theorem Closed.append_flatMap {α : Type} {block : α → List String} (hblock : ∀ a, Closed (block a))
    (l : List α) : ∀ {lines : List String}, Closed lines → Closed (lines ++ l.flatMap block) := by
  induction l with
  | nil => exact fun h => by rwa [List.flatMap_nil, List.append_nil]
  | cons a l ih =>
    intro lines h
    rw [List.flatMap_cons, ← List.append_assoc]
    exact ih ((hblock a).append lines)

/-- The lines that place the classes are closed. -/
theorem closed_layoutLines (layout : Layout) (m n : Nat) : Closed (layoutLines layout m n) :=
  ⟨(layoutLines layout m n).dropLast, "", rfl, .inl rfl⟩

/-- The lines of a class are closed. -/
theorem closed_classLines (c : Classifier) : Closed (classLines c) :=
  ⟨_, _, rfl, .inr rfl⟩

/-- In front of the connectors of a diagram there is a line that shows none. -/
theorem exists_documentLines_eq (layout : Layout) (classes : List Classifier) :
    ∃ front last, documentLines layout classes =
      front ++ ([last] ++ connectorLines connectorLine classes ++ ["@enduml"]) ∧
      connection? last = none ∧ '\n' ∉ last.toList := by
  unfold documentLines
  obtain ⟨packages, loose⟩ := grouped classes
  dsimp only
  have hblock (package : String × List Classifier) :
      Closed (["  package \"" ++ package.1 ++ "\" \x7b"] ++ package.2.flatMap classLines ++
        ["  \x7d", ""]) :=
    Closed.append ⟨["  \x7d"], "", rfl, .inl rfl⟩ _
  have hlayout := (closed_layoutLines layout classes.length packages.length).append
    (openingLines layout)
  have hpackages := hlayout.append_flatMap hblock packages
  obtain ⟨front, last, hfront, hlast⟩ := hpackages.append_flatMap closed_classLines loose
  rw [hfront]
  split_ifs with hnone
  · refine ⟨front, last, ?_, ?_, ?_⟩
    · rw [List.isEmpty_iff.mp hnone, List.append_nil, List.append_nil, List.append_assoc]
    · rcases hlast with rfl | rfl <;> decide
    · rcases hlast with rfl | rfl <;> decide
  · refine ⟨front ++ [last] ++ [""], "' Relationships", ?_, by decide, by decide⟩
    simp only [List.append_assoc, List.cons_append, List.nil_append]

/-- The connectors of a diagram are found behind their heading, or behind all else when there are
none. -/
theorem shownConnectors_render (layout : Layout) {classes : List Classifier}
    (h : ∀ c ∈ classes, Worded c) :
    shownConnectors (render layout classes) = connectorLines connectorLine classes := by
  obtain ⟨front, last, hlines, hlast, hbreak⟩ := exists_documentLines_eq layout classes
  have hbreaks : ∀ line ∈ [last] ++ connectorLines connectorLine classes ++ ["@enduml"],
      '\n' ∉ line.toList := by
    simp only [List.forall_mem_append, List.forall_mem_singleton]
    exact ⟨⟨hbreak, readable.newline_notMem_connectorLines h⟩, by decide⟩
  unfold shownConnectors render
  rw [hlines, linesOf_join_append, linesOf_join_of_unbroken hbreaks, ← List.append_assoc,
    List.dropLast_concat,
    ← List.append_assoc]
  exact readable.rtakeWhile_connectorLines h hlast

end PlantUml

/-! ## The connectors of both notations -/

/-- When all names are words, the connectors of a PlantUML diagram and of an AML document are in
ascending order, and, read by their arrows, they are the same, each once: those that the classes
draw. What a class is related to is drawn by its structure or as what it depends on, and not as
both. -/
theorem render_connections (layout : Layout) {classes : List Classifier}
    (h : ∀ c ∈ classes, Worded c) :
    let diagram := PlantUml.shownConnectors (PlantUml.render layout classes)
    let document := Aml.shownConnectors (Aml.render classes)
    diagram.Pairwise (· < ·) ∧ document.Pairwise (· < ·) ∧
    (∃ drawn drawn' : List Connection,
      diagram.map PlantUml.connection? = drawn.map some ∧
      document.map Aml.connection? = drawn'.map some ∧
      drawn.Nodup ∧ drawn.Perm drawn' ∧ ∀ x, x ∈ drawn ↔ Drawn classes x) ∧
    ∀ c ∈ classes, ∀ r ∈ c.relations, r.target ≠ c.name →
      Xor (∃ kind : RelationKind, kind.isStructural = true ∧
          (Connector.relation kind, r.target) ∈ connectorsOf c)
        ((Connector.relation .dependency, r.target) ∈ connectorsOf c) := by
  intro diagram document
  have hdiagram : diagram = connectorLines PlantUml.connectorLine classes :=
    PlantUml.shownConnectors_render layout h
  have hdocument : document = connectorLines Aml.connectorLine classes :=
    Aml.shownConnectors_render h
  obtain ⟨drawn, hread, hnodup, hdrawn⟩ := PlantUml.readable.exists_connections h
  obtain ⟨drawn', hread', hnodup', hdrawn'⟩ := Aml.readable.exists_connections h
  rw [hdiagram, hdocument]
  refine ⟨pairwise_connectorLines, pairwise_connectorLines, ?_, ?_⟩
  · refine ⟨drawn, drawn', hread, hread', hnodup, ?_, hdrawn⟩
    exact (List.perm_ext_iff_of_nodup hnodup hnodup').mpr fun x =>
      (hdrawn x).trans (hdrawn' x).symm
  · exact fun c _ r hr hne => xor_of_mem_relations hr hne

/-- A station that owns an airlock and depends on it, and depends on a toolkit. -/
def station : Classifier where
  name := "Station"
  kind := .plain
  superclass := some "Structure"
  interfaces := ["Maintainable"]
  relations := [{ kind := .composition, target := "Airlock" },
    { kind := .dependency, target := "Airlock" }, { kind := .dependency, target := "Toolkit" }]

/-- All names that the station draws are words. -/
theorem worded_station : Worded station where
  name := by decide
  superclass := by
    rintro _ ⟨⟩
    decide
  interfaces := by decide
  targets := by decide

/-- The toolkit is drawn as what the station depends on, and the airlock as its part only. -/
theorem render_station :
    (∀ c ∈ [station], Worded c) ∧ ∃ drawn : List Connection,
      (PlantUml.shownConnectors (PlantUml.render {} [station])).map PlantUml.connection? =
        drawn.map some ∧
      ⟨"Station", .relation .composition, "Airlock"⟩ ∈ drawn ∧
      ⟨"Station", .relation .dependency, "Airlock"⟩ ∉ drawn ∧
      ⟨"Station", .relation .dependency, "Toolkit"⟩ ∈ drawn := by
  have hworded : ∀ c ∈ [station], Worded c := List.forall_mem_singleton.mpr worded_station
  obtain ⟨-, -, ⟨drawn, -, hread, -, -, -, hdrawn⟩, -⟩ := render_connections {} hworded
  have hstation (connector : Connector) (target : String) :
      ⟨"Station", connector, target⟩ ∈ drawn ↔ (connector, target) ∈ connectorsOf station := by
    rw [hdrawn, mem_connectorsOf]
    simp [Drawn, station]
  refine ⟨hworded, drawn, hread, ?_⟩
  rw [hstation, hstation, hstation]
  decide

end ClassGraph.Diagram
