import Mathlib.Data.List.TakeWhile
import ClassGraph.Diagram.Dot
import ClassGraph.Proofs.Diagram.DotReader
import ClassGraph.Proofs.Graph.Invariant

/-!
# A drawing in DOT is read back

`read?_render_run`: the reader of DOT texts finds in the drawing of a graph one node for each live
entity and one edge for each live edge, with all that they show, whatever characters the names of
types and roles and the labels of edges are made of. A text between quotes ends where it was ended
(`fills_escaped`), so that each line is cut into the tokens that were meant (`reads_nodeLine`,
`reads_edgeLine`), and each statement is read as what it draws (`item?_nodeTokens`,
`item?_edgeTokens`).
-/

namespace ClassGraph.Diagram.Dot

/-! ## Characters and tokens -/

/-- The reader goes from one place to another over a text in which these tokens end. -/
def Reads (p : Place) (text : String) (tokens : List Token) (q : Place) : Prop :=
  p.run text.toList = (tokens, q)

/-- Between quotes, the reader finds these pieces in a text and stays between quotes. -/
def Fills (text : String) (pieces : List Piece) : Prop :=
  ∀ before, Reads (.inQuotes before) text [] (.inQuotes (before ++ pieces))

section

variable {p q r : Place} {text text' : String} {tokens tokens' : List Token}
  {pieces pieces' : List Piece}

/-- A reader takes two texts one behind the other as it takes them on their own, from where it has
come to. -/
theorem Place.run_append (p : Place) (a b : List Char) :
    p.run (a ++ b) = ((p.run a).1 ++ ((p.run a).2.run b).1, ((p.run a).2.run b).2) := by
  induction a generalizing p with
  | nil => rfl
  | cons c a ih => simp [Place.run, ih]

/-- The tokens of two texts are read one behind the other. -/
theorem Reads.append (h : Reads p text tokens q) (h' : Reads q text' tokens' r) :
    Reads p (text ++ text') (tokens ++ tokens') r := by
  unfold Reads at *
  rw [String.toList_append, Place.run_append, h, h']

/-- Texts that each lead from one token to the next do so one after the other. -/
theorem Reads.join {α : Type} {line : α → String} {tokensOf : α → List Token} {l : List α}
    (h : ∀ a ∈ l, Reads .between (line a) (tokensOf a) .between) :
    Reads .between (String.join (l.map line)) (l.flatMap tokensOf) .between := by
  induction l with
  | nil => rfl
  | cons a l ih =>
    obtain ⟨ha, hl⟩ := List.forall_mem_cons.mp h
    rw [List.map_cons, String.join_cons, List.flatMap_cons]
    exact ha.append (ih hl)

/-- The pieces of two texts between quotes are read one behind the other. -/
theorem Fills.append (h : Fills text pieces) (h' : Fills text' pieces') :
    Fills (text ++ text') (pieces ++ pieces') := by
  intro before
  rw [← List.append_assoc]
  exact (h before).append (h' (before ++ pieces))

/-- A text between quotes is one token. -/
theorem Fills.quoted (h : Fills text pieces) :
    Reads .between (quoted text) [.quoted pieces] .between := by
  have hopen : Reads .between "\"" [] (.inQuotes []) := rfl
  have hclose : Reads (.inQuotes pieces) "\"" [.quoted pieces] .between := rfl
  exact (hopen.append (h [])).append hclose

end

/-- What is written for one character of a quoted text. -/
def escapedChar : Char → List Char
  | '\\' => ['\\', '\\']
  | '"' => ['\\', '"']
  | c => [c]

/-- A text stands between quotes as its characters do. The backslashes that are put in front of
quotes are not written twice, since backslashes have been looked for before. -/
theorem escaped_eq_flatMap (s : String) :
    escaped s = String.ofList (s.toList.flatMap escapedChar) := by
  unfold escaped replaced
  rw [List.flatMap_assoc]
  refine congrArg String.ofList (List.flatMap_congr fun c _ => ?_)
  by_cases hslash : c = '\\'
  · subst hslash
    rfl
  · by_cases hquote : c = '"'
    · subst hquote
      rfl
    · rw [if_neg hslash, List.flatMap_singleton, if_neg hquote, escapedChar]
      · exact hslash
      · exact hquote

/-- The piece that is written for a character. -/
def pieceOf (c : Char) : Piece := if c = '\\' ∨ c = '"' then .escape c else .plain c

/-- The pieces that are written for a text. -/
def piecesOf (s : String) : List Piece := s.toList.map pieceOf

/-- What is written for a character between quotes is read as one piece. -/
theorem run_escapedChar (c : Char) (before : List Piece) :
    (Place.inQuotes before).run (escapedChar c) = ([], .inQuotes (before ++ [pieceOf c])) := by
  unfold escapedChar
  split
  case h_3 hslash hquote =>
    have hslash : c ≠ '\\' := hslash
    have hquote : c ≠ '"' := hquote
    simp [Place.run, Place.step, pieceOf, hslash, hquote]
  all_goals rfl

/-- No quote and no backslash of a text ends it or joins what follows. -/
theorem fills_escaped (s : String) : Fills (escaped s) (piecesOf s) := by
  rw [escaped_eq_flatMap]
  unfold piecesOf
  intro before
  unfold Reads
  rw [String.toList_ofList]
  induction s.toList generalizing before with
  | nil => simp [Place.run]
  | cons c cs ih => rw [List.flatMap_cons, Place.run_append, run_escapedChar, ih]; simp

/-- The text of an entity is its number in decimal digits behind a hash. -/
theorem toList_text (id : EntityId) : id.text.toList = '#' :: Nat.toDigits 10 id.number := by
  have htext : id.text = "#" ++ toString id.number := rfl
  rw [htext, String.toList_append, Nat.toString_eq_repr, Nat.toList_repr]
  rfl

/-- The number of an entity is written without escapes. -/
theorem escaped_text (id : EntityId) : escaped id.text = id.text := by
  have hplain : ∀ c ∈ id.text.toList, escapedChar c = [c] := by
    rw [toList_text, List.forall_mem_cons]
    refine ⟨rfl, fun c hc => ?_⟩
    have hdigit := Nat.isDigit_of_mem_toDigits (by decide) (by decide) hc
    unfold escapedChar
    split
    · cases hdigit
    · cases hdigit
    · rfl
  rw [escaped_eq_flatMap, List.flatMap_congr hplain, List.flatMap_singleton', String.ofList_toList]

/-! ## Lines -/

/-- The tokens of attributes in brackets. -/
def attributeTokens (attributes : List (String × Token)) : List Token :=
  .mark '[' :: [Token.mark ','].intercalate
    (attributes.map fun a => [.word a.1, .mark '=', a.2]) ++ [.mark ']']

/-- The attributes that an edge is drawn with. -/
def styleOf : RelationKind → List (String × Token)
  | .composition =>
    [("dir", .word "back"), ("arrowtail", .word "diamond"), ("style", .word "solid")]
  | .aggregation =>
    [("dir", .word "back"), ("arrowtail", .word "odiamond"), ("style", .word "solid")]
  | .association => [("arrowhead", .word "vee"), ("style", .word "solid")]
  | .dependency => [("arrowhead", .word "vee"), ("style", .word "dashed")]

/-- The pieces of the label of a node. -/
def nodePieces (e : Entity) : List Piece :=
  piecesOf e.typeTag ++
    if e.roles.isEmpty then []
    else [.escape 'n', .plain '«'] ++ piecesOf (", ".intercalate e.roles.toList) ++ [.plain '»']

/-- The tokens of the statement of a node. -/
def nodeTokens (e : Entity) : List Token :=
  .quoted (piecesOf e.id.text) :: attributeTokens [("label", .quoted (nodePieces e))]

/-- The attributes of an edge. -/
def edgeAttributes (e : Edge) : List (String × Token) :=
  styleOf e.kind ++ e.label.toList.map fun label => ("label", .quoted (piecesOf label))

/-- The tokens of the statement of an edge. -/
def edgeTokens (e : Edge) : List Token :=
  [.quoted (piecesOf e.source.text), .mark '-', .mark '>', .quoted (piecesOf e.target.text)] ++
    attributeTokens (edgeAttributes e)

/-- The text of an entity can be read between quotes. -/
theorem fills_text (id : EntityId) : Fills id.text (piecesOf id.text) := by
  have hfills := fills_escaped id.text
  rwa [escaped_text] at hfills

/-- The label of a node can be read between quotes, with its breaks. -/
theorem fills_nodeLabel (e : Entity) : Fills (nodeLabel e) (nodePieces e) := by
  have hopen : Fills "\\n«" [.escape 'n', .plain '«'] := fun before => by
    simp [Reads, Place.run, Place.step]
  have hclose : Fills "»" [.plain '»'] := fun _ => rfl
  have hempty : Fills "" [] := fun before => by simp [Reads, Place.run]
  unfold nodeLabel nodePieces
  dsimp only
  rw [Std.ExtTreeSet.isEmpty_toList]
  refine (fills_escaped e.typeTag).append ?_
  split_ifs
  · exact hempty
  · exact (hopen.append (fills_escaped _)).append hclose

/-- The line of a node is cut into the tokens of its statement. -/
theorem reads_nodeLine (e : Entity) :
    Reads .between (nodeLine e ++ "\n") (nodeTokens e ++ [.mark ';']) .between := by
  have hindent : Reads .between "  " [] .between := rfl
  have hlabel : Reads .between " [label=" [.mark '[', .word "label", .mark '='] .between := rfl
  have hclose : Reads .between "];" [.mark ']', .mark ';'] .between := rfl
  have hbreak : Reads .between "\n" [] .between := rfl
  exact ((((hindent.append (fills_text e.id).quoted).append hlabel).append
    (fills_nodeLabel e).quoted).append hclose).append hbreak

/-- The word that ends the style of an edge. -/
def stroke : RelationKind → String
  | .dependency => "dashed"
  | _ => "solid"

/-- The tokens of a style behind a bracket, without the word that ends it. -/
def styleOpening (kind : RelationKind) : List Token :=
  (attributeTokens (styleOf kind)).dropLast.dropLast

/-- The attributes of a kind are its opening and its stroke. -/
theorem attributeTokens_styleOf (kind : RelationKind) :
    attributeTokens (styleOf kind) = styleOpening kind ++ [.word (stroke kind), .mark ']'] := by
  cases kind <;> rfl

/-- A label stands behind the attributes of a kind. -/
theorem attributeTokens_labelledStyleOf (kind : RelationKind) (value : Token) :
    attributeTokens (styleOf kind ++ [("label", value)]) =
      styleOpening kind ++ [.word (stroke kind), .mark ',', .word "label", .mark '='] ++ [value] ++
        [.mark ']'] := by
  cases kind <;> rfl

/-- At the end of a style the reader is in the word that ends it. -/
theorem reads_style (kind : RelationKind) :
    Reads .between (" [" ++ style kind) (styleOpening kind) (.inWord (stroke kind).toList) := by
  cases kind <;> rfl

/-- What stands behind the style of an edge: its label, if it has one. -/
def labelPart : Option String → String
  | none => ""
  | some label => ", label=" ++ quoted (escaped label)

/-- The line of an edge has the two entities in quotes, and behind them its attributes. -/
theorem edgeLine_eq (e : Edge) :
    edgeLine e = "  " ++ quoted e.source.text ++ " -> " ++ quoted e.target.text ++
      (" [" ++ style e.kind ++ labelPart e.label ++ "];") := by
  unfold edgeLine labelPart
  cases e.label <;> simp only [String.append_assoc]

/-- The attributes of an edge, in brackets. -/
theorem reads_edgeAttributes (e : Edge) :
    Reads .between (" [" ++ style e.kind ++ labelPart e.label ++ "];")
      (attributeTokens (edgeAttributes e) ++ [.mark ';']) .between := by
  have hclose : Reads .between "];" [.mark ']', .mark ';'] .between := rfl
  unfold edgeAttributes labelPart
  cases e.label with
  | none =>
    have hend : Reads (.inWord (stroke e.kind).toList) "];"
        [.word (stroke e.kind), .mark ']', .mark ';'] .between := by cases e.kind <;> rfl
    have hread := (reads_style e.kind).append hend
    simpa [attributeTokens_styleOf] using hread
  | some label =>
    have hcomma : Reads (.inWord (stroke e.kind).toList) ", label="
        [.word (stroke e.kind), .mark ',', .word "label", .mark '='] .between := by
      cases e.kind <;> rfl
    have hread := (((reads_style e.kind).append hcomma).append
      (fills_escaped label).quoted).append hclose
    simpa [attributeTokens_labelledStyleOf, String.append_assoc] using hread

/-- The line of an edge is cut into the tokens of its statement. -/
theorem reads_edgeLine (e : Edge) :
    Reads .between (edgeLine e ++ "\n") (edgeTokens e ++ [.mark ';']) .between := by
  have hindent : Reads .between "  " [] .between := rfl
  have harrow : Reads .between " -> " [.mark '-', .mark '>'] .between := rfl
  have hbreak : Reads .between "\n" [] .between := rfl
  have hends := ((hindent.append (fills_text e.source).quoted).append harrow).append
    (fills_text e.target).quoted
  have hline := (hends.append (reads_edgeAttributes e)).append hbreak
  rw [edgeLine_eq, edgeTokens, List.append_assoc]
  rwa [List.append_nil] at hline

/-! ## Statements -/

/-- A list of readings has the results of its members, in its order. -/
theorem mapM_map {α β γ : Type} {read : β → Option γ} {write : α → β} {value : α → γ}
    {l : List α} (h : ∀ a ∈ l, read (write a) = some (value a)) :
    (l.map write).mapM read = some (l.map value) := by
  induction l with
  | nil => rfl
  | cons a l ih =>
    obtain ⟨ha, hl⟩ := List.forall_mem_cons.mp h
    simp [ha, ih hl]

/-- A piece that is written for a character is read as this character. -/
theorem char?_pieceOf (c : Char) : (pieceOf c).char? = some c := by
  unfold pieceOf
  split_ifs with hc
  · exact if_pos hc
  · rfl

/-- The pieces that are written for a text are read as this text. -/
theorem mapM_char?_piecesOf (s : String) : (piecesOf s).mapM Piece.char? = some s.toList := by
  have hread := mapM_map fun c (_ : c ∈ s.toList) => char?_pieceOf c
  rwa [List.map_id'] at hread

/-- The pieces of a text stand for the text. -/
theorem text?_piecesOf (s : String) : text? (piecesOf s) = some s := by
  rw [text?, mapM_char?_piecesOf, Option.map_some, String.ofList_toList]

/-- No character is written as the break between the lines of a label. -/
theorem bne_break_of_mem_piecesOf {s : String} {piece : Piece} (h : piece ∈ piecesOf s) :
    (piece != .escape 'n') = true := by
  obtain ⟨c, -, rfl⟩ := List.mem_map.mp h
  unfold pieceOf
  split_ifs with hc
  · rcases hc with rfl | rfl <;> rfl
  · rfl

/-- An entity is found by its number. -/
theorem entity?_piecesOf_text (id : EntityId) : entity? (piecesOf id.text) = some id := by
  have hpieces : piecesOf id.text =
      .plain '#' :: (Nat.toDigits 10 id.number).map pieceOf := by
    rw [piecesOf, toList_text]
    rfl
  have hdigits : ((Nat.toDigits 10 id.number).map pieceOf).mapM Piece.char? =
      some (Nat.toDigits 10 id.number) := by
    have hread := mapM_map fun c (_ : c ∈ Nat.toDigits 10 id.number) => char?_pieceOf c
    rwa [List.map_id'] at hread
  have hnumber : Text.isDigits (Nat.toDigits 10 id.number) = true := by
    have hall : (Nat.toDigits 10 id.number).all Char.isDigit = true :=
      List.all_eq_true.mpr fun c hc => Nat.isDigit_of_mem_toDigits (by decide) (by decide) hc
    simp [Text.isDigits, hall, Nat.toDigits_ne_nil]
  rw [hpieces]
  simp [entity?, hdigits, hnumber, Nat.ofDigitChars_ten_toDigits]

/-- The attributes in brackets are read as they were written. -/
theorem attributes?_attributeTokens {attributes : List (String × Token)} (hne : attributes ≠ [])
    (hvalues : ∀ a ∈ attributes, a.2 ≠ .mark ',') :
    attributes? (attributeTokens attributes) = some attributes := by
  have hsplit : ([Token.mark ','].intercalate
      (attributes.map fun a => [Token.word a.1, .mark '=', a.2])).splitOn (.mark ',') =
      attributes.map fun a => [Token.word a.1, .mark '=', a.2] := by
    refine List.splitOn_intercalate _ ?_ (by simpa using hne)
    intro tokens htokens
    obtain ⟨a, ha, rfl⟩ := List.mem_map.mp htokens
    simpa using (hvalues a ha).symm
  have hread : (attributes.map fun a => [Token.word a.1, .mark '=', a.2]).mapM attribute? =
      some (attributes.map id) := mapM_map fun _ _ => rfl
  unfold attributeTokens
  rw [List.cons_append]
  simp only [attributes?, List.getLast?_concat, if_true, List.dropLast_concat]
  rw [hsplit, hread, List.map_id]

/-! ### Nodes -/

/-- What the statement of an entity draws. -/
def nodeItem (e : Entity) : Item :=
  .node e.id e.typeTag
    (if e.roles.isEmpty then none else some (", ".intercalate e.roles.toList))

/-- A label shows the type of an entity and, where it has some, its roles. -/
theorem label?_nodePieces (e : Entity) :
    label? (nodePieces e) = some (e.typeTag,
      if e.roles.isEmpty then none else some (", ".intercalate e.roles.toList)) := by
  have htag : ∀ piece ∈ piecesOf e.typeTag, (piece != .escape 'n') = true :=
    fun _ => bne_break_of_mem_piecesOf
  unfold nodePieces
  split_ifs
  · have hrest : (piecesOf e.typeTag).dropWhile (· != .escape 'n') = [] :=
      List.dropWhile_eq_nil_iff.mpr htag
    rw [List.append_nil]
    simp [label?, hrest, text?_piecesOf]
  · unfold label?
    rw [List.dropWhile_append_of_pos htag, List.takeWhile_append_of_pos htag]
    simp [text?_piecesOf]

/-- The statement of a node is read as its entity. -/
theorem item?_nodeTokens (e : Entity) : item? (nodeTokens e) = some (nodeItem e) := by
  have hattributes : attributes? (attributeTokens [("label", .quoted (nodePieces e))]) =
      some [("label", .quoted (nodePieces e))] :=
    attributes?_attributeTokens (by simp) (by simp)
  have hname := entity?_piecesOf_text e.id
  -- Behind the name there is a bracket, so that the statement is not read as an edge.
  rw [nodeTokens, item?, hattributes]
  · simp [hname, label?_nodePieces, nodeItem]
  · simp [attributeTokens]

/-! ### Edges -/

/-- What the statement of an edge draws. -/
def edgeItem (e : Edge) : Item := .edge e.source e.target e.kind e.label

/-- The kind of an edge is found among its attributes. -/
theorem kind?_edgeAttributes (e : Edge) : kind? (edgeAttributes e) = some e.kind := by
  unfold edgeAttributes
  cases e.kind <;> cases e.label <;> rfl

/-- The label of an edge is found among its attributes. -/
theorem edgeLabel?_edgeAttributes (e : Edge) : edgeLabel? (edgeAttributes e) = some e.label := by
  have hstyle : (styleOf e.kind).lookup "label" = none := by cases e.kind <;> rfl
  unfold edgeAttributes edgeLabel?
  rw [List.lookup_append, hstyle]
  cases e.label <;> simp [text?_piecesOf]

/-- The statement of an edge is read as that edge. -/
theorem item?_edgeTokens (e : Edge) : item? (edgeTokens e) = some (edgeItem e) := by
  have hattributes : attributes? (attributeTokens (edgeAttributes e)) =
      some (edgeAttributes e) := by
    apply attributes?_attributeTokens
    · unfold edgeAttributes
      cases e.kind <;> simp [styleOf]
    · unfold edgeAttributes
      cases e.kind <;> cases e.label <;> simp [styleOf]
  unfold edgeTokens edgeItem
  simp [item?, hattributes, entity?_piecesOf_text, kind?_edgeAttributes,
    edgeLabel?_edgeAttributes]

/-! ## The drawing -/

/-- The statements that set something for the whole drawing. -/
def settingTokens : List (List Token) :=
  [[.word "rankdir", .mark '=', .word "LR"],
    .word "node" :: attributeTokens [("shape", .word "box"), ("fontsize", .word "10")]]

/-- The statements of the nodes and of the edges. -/
def drawnTokens (g : EntityGraph) : List (List Token) :=
  (g.entities.toList.map fun p => nodeTokens p.2) ++ g.edges.toList.map fun p => edgeTokens p.2

/-- The lines in front of the nodes are cut into the tokens of the settings. -/
theorem reads_head :
    Reads .between (String.join (["digraph relgraph \x7b", "  rankdir=LR;",
        "  node [shape=box, fontsize=10];", ""].map (· ++ "\n")))
      ([.word "digraph", .word "relgraph", .mark '\x7b'] ++
        settingTokens.flatMap fun s => s ++ [.mark ';']) .between := by
  have hopen : Reads .between "digraph relgraph \x7b\n"
      [.word "digraph", .word "relgraph", .mark '\x7b'] .between := rfl
  have hdirection : Reads .between "  rankdir=LR;\n"
      [.word "rankdir", .mark '=', .word "LR", .mark ';'] .between := rfl
  have hbox : Reads .between "  node [shape=box, fontsize=10];\n"
      (.word "node" :: attributeTokens [("shape", .word "box"), ("fontsize", .word "10")] ++
        [.mark ';']) .between := rfl
  have hgap : Reads .between "\n" [] .between := rfl
  exact ((hopen.append hdirection).append hbox).append hgap

/-- A drawing is cut into the tokens of its statements. -/
theorem reads_render (g : EntityGraph) :
    Reads .between (render g)
      ([.word "digraph", .word "relgraph", .mark '\x7b'] ++
        ((settingTokens ++ drawnTokens g).flatMap fun s => s ++ [.mark ';']) ++ [.mark '\x7d'])
      .between := by
  have hgap : Reads .between (String.join ([""].map (· ++ "\n"))) [] .between := rfl
  have hend : Reads .between (String.join (["\x7d"].map (· ++ "\n"))) [.mark '\x7d'] .between := rfl
  have hnodes := Reads.join (l := g.entities.toList) fun p _ => reads_nodeLine p.2
  have hedges := Reads.join (l := g.edges.toList) fun p _ => reads_edgeLine p.2
  have hread := (((reads_head.append hnodes).append hgap).append hedges).append hend
  unfold render documentLines drawnTokens
  simp only [List.map_append, List.map_map, Function.comp_def, String.join_append,
    String.append_assoc, List.flatMap_append, List.flatMap_map, List.append_assoc,
    List.append_nil] at hread ⊢
  exact hread

/-- No statement ends within the tokens of a node. -/
theorem mark_notMem_nodeTokens (e : Entity) : Token.mark ';' ∉ nodeTokens e := by
  simp [nodeTokens, attributeTokens]

/-- No statement ends within the tokens of an edge. -/
theorem mark_notMem_edgeTokens (e : Edge) : Token.mark ';' ∉ edgeTokens e := by
  unfold edgeTokens edgeAttributes
  cases e.kind <;> cases e.label <;> simp [attributeTokens, styleOf]

/-- Statements that hold no semicolon are told apart by those that end them. -/
theorem splitOn_statements {statements : List (List Token)}
    (h : ∀ s ∈ statements, Token.mark ';' ∉ s) :
    (statements.flatMap fun s => s ++ [.mark ';']).splitOn (.mark ';') = statements ++ [[]] := by
  induction statements with
  | nil => rfl
  | cons s statements ih =>
    obtain ⟨hs, hmore⟩ := List.forall_mem_cons.mp h
    rw [List.flatMap_cons, List.append_assoc, List.singleton_append,
      List.splitOn_append_cons_self_of_not_mem hs, ih hmore, List.cons_append]

/-- Between the braces there are the entities and the edges, in the order of their numbers. -/
theorem items?_drawnTokens (g : EntityGraph) :
    items? ((settingTokens ++ drawnTokens g).flatMap fun s => s ++ [.mark ';']) =
      some ((g.entities.toList.map fun p => nodeItem p.2) ++
        g.edges.toList.map fun p => edgeItem p.2) := by
  have hmarks : ∀ s ∈ settingTokens ++ drawnTokens g, Token.mark ';' ∉ s := by
    simp only [drawnTokens, List.forall_mem_append, List.forall_mem_map]
    exact ⟨by decide, fun p _ => mark_notMem_nodeTokens p.2, fun p _ => mark_notMem_edgeTokens p.2⟩
  have hsettings : settingTokens.filter (fun s => !isSetting s) = [] := by decide
  have hdrawn : (drawnTokens g).filter (fun s => !isSetting s) = drawnTokens g := by
    refine List.filter_eq_self.mpr ?_
    simp only [drawnTokens, List.forall_mem_append, List.forall_mem_map]
    exact ⟨fun _ _ => rfl, fun _ _ => rfl⟩
  have hnodes := mapM_map fun p (_ : p ∈ g.entities.toList) => item?_nodeTokens p.2
  have hedges := mapM_map fun p (_ : p ∈ g.edges.toList) => item?_edgeTokens p.2
  unfold items?
  simp only [splitOn_statements hmarks, List.getLast?_concat, if_true, List.dropLast_concat,
    List.filter_append, hsettings, hdrawn, List.nil_append]
  rw [drawnTokens, List.mapM_append, hnodes, hedges]
  rfl

/-- A reader finds in a drawing an item for each entity and then one for each edge. -/
theorem read?_render (g : EntityGraph) :
    read? (render g) = some ((g.entities.toList.map fun p => nodeItem p.2) ++
      g.edges.toList.map fun p => edgeItem p.2) := by
  have htokens : tokens? (render g).toList =
      some ([.word "digraph", .word "relgraph", .mark '\x7b'] ++
        ((settingTokens ++ drawnTokens g).flatMap fun s => s ++ [.mark ';']) ++
        [.mark '\x7d']) := by
    unfold tokens?
    rw [reads_render g]
  simp [read?, htokens, -List.flatMap_append, items?_drawnTokens]

/-- The drawing of a graph that requests have led to is read back: in the order of their numbers
there is one node for each live entity, with its number, its type and its roles, and behind them
one edge for each live edge, with its ends, its kind and its label, if it has one. -/
theorem read?_render_run (registry : Registry) (history : List Request) :
    let g := (EntityGraph.empty registry).run history
    read? (render g) = some (
      (g.entities.toList.map fun p =>
        .node p.1 p.2.typeTag
          (if p.2.roles.isEmpty then none else some (", ".intercalate p.2.roles.toList))) ++
      g.edges.toList.map fun p => .edge p.2.source p.2.target p.2.kind p.2.label) ∧
    (g.entities.toList.Pairwise fun p q => p.1.number < q.1.number) ∧
    g.edges.toList.Pairwise fun p q => p.1.number < q.1.number := by
  intro g
  have h : g.WellFormed := EntityGraph.wellFormed_run_empty registry history
  refine ⟨?_, ?_, ?_⟩
  · rw [read?_render]
    congr 2
    -- A node shows the number that an entity has, and it is stored under this number.
    refine List.map_congr_left fun p hp => ?_
    have hid := h.entity_id (Std.ExtTreeMap.mem_toList_iff_getElem?_eq_some.mp hp)
    rw [nodeItem, hid]
  · have hascending := Std.ExtTreeMap.ordered_keys_toList (t := g.entities)
    exact hascending.imp fun hlt => Nat.compare_eq_lt.mp hlt
  · have hascending := Std.ExtTreeMap.ordered_keys_toList (t := g.edges)
    exact hascending.imp fun hlt => Nat.compare_eq_lt.mp hlt

end ClassGraph.Diagram.Dot
