import ClassGraph.Json.Printer
import ClassGraph.Json.Reader
import Mathlib.Data.List.Basic

/-!
# Written JSON is read back

`Numberless.parse?_pretty`: a value without numbers is what the reader finds in the value's text
over several lines. The reader works in three passes, and so does the proof.
`stringBody?_escapedChar` undoes the escape of one character, whichever it is.
`Numberless.cuts_prettyAt` says that the text of a value is cut into `tokensOf` it, whatever
follows; the layout leaves no trace in the tokens. `runs_tokensOf` says that the machine behind
those tokens has finished the value, whatever arrays and objects are open around it.
-/

namespace ClassGraph.Json

/-- The digits that are written for a character below U+0020 are read as its number. -/
theorem hexQuad?_hexDigit : ∀ n < 32,
    hexQuad? '0' '0' (hexDigit (n / 16)) (hexDigit (n % 16)) = some n := by
  decide

/-- A character that needs no escape stands for itself. -/
theorem stringBody?_cons {c : Char} (hcontrol : ¬ c.toNat < 0x20) (hslash : c ≠ '\\')
    (hquote : c ≠ '"') (rest : List Char) :
    stringBody? none (c :: rest) = (stringBody? none rest).map (pushChar c) := by
  rw [stringBody?]
  · simp [hcontrol, hslash, hquote]
  · simp [hslash]
  · simp [hslash]

/-- A letter behind a backslash is read as the character that it stands for. -/
theorem stringBody?_escape {letter c : Char} (hletter : simpleEscape? letter = some c)
    (hu : letter ≠ 'u') (rest : List Char) :
    stringBody? none ('\\' :: letter :: rest) = (stringBody? none rest).map (pushChar c) := by
  rw [stringBody?]
  case heq => exact hletter
  case x_1 => exact fun _ _ _ _ _ hcontra => absurd hcontra hu

/-- Four digits behind `\u` are read as the character that they number, unless it is half of a
surrogate pair. -/
theorem stringBody?_quad {a b c d : Char} {n : Nat} (hquad : hexQuad? a b c d = some n)
    (hn : n < 0xD800) (rest : List Char) :
    stringBody? none ('\\' :: 'u' :: a :: b :: c :: d :: rest) =
      (stringBody? none rest).map (pushChar (Char.ofNat n)) := by
  rw [stringBody?.eq_def]
  simp only [hquad]
  rw [if_neg (by omega), if_neg (by omega)]

/-- What is written for a character is read as the character. -/
theorem stringBody?_escapedChar (c : Char) (rest : List Char) :
    stringBody? none (escapedChar c ++ rest) = (stringBody? none rest).map (pushChar c) := by
  unfold escapedChar
  split
  case h_8 hquote hslash _ _ _ _ _ =>
    split_ifs with hcontrol
    · have hread := stringBody?_quad (hexQuad?_hexDigit c.toNat hcontrol) (by omega) rest
      rwa [Char.ofNat_toNat] at hread
    · exact stringBody?_cons hcontrol hslash hquote rest
  all_goals exact stringBody?_escape rfl (by decide) rest

/-- A text ends at the quote that was written behind it, not at one inside. -/
theorem stringBody?_flatMap_escapedChar (text rest : List Char) :
    stringBody? none (text.flatMap escapedChar ++ '"' :: rest) = some (text, rest) := by
  induction text with
  | nil => simp [stringBody?]
  | cons c text ih =>
    rw [List.flatMap_cons, List.append_assoc, stringBody?_escapedChar, ih]
    rfl

mutual

/-- The tokens that a value is written with. -/
def tokensOf : Json → List Token
  | .array [] => [.mark '[', .mark ']']
  | .array (item :: items) => .mark '[' :: tokensOf item ++ tokensOfItems items ++ [.mark ']']
  | .object [] => [.mark '\x7b', .mark '\x7d']
  | .object ((key, value) :: members) =>
    .mark '\x7b' :: .scalar (.string key) :: .mark ':' :: tokensOf value ++
      tokensOfMembers members ++ [.mark '\x7d']
  | j => [.scalar j]

/-- The tokens of the items behind the first one. -/
def tokensOfItems : List Json → List Token
  | [] => []
  | item :: items => .mark ',' :: tokensOf item ++ tokensOfItems items

/-- The tokens of the members behind the first one. -/
def tokensOfMembers : List (String × Json) → List Token
  | [] => []
  | (key, value) :: members =>
    .mark ',' :: .scalar (.string key) :: .mark ':' :: tokensOf value ++ tokensOfMembers members

end

/-- A value in which no number occurs. -/
inductive Numberless : Json → Prop where
  /-- The value `null`. -/
  | null : Numberless .null
  /-- A truth value. -/
  | bool (b : Bool) : Numberless (.bool b)
  /-- A text. -/
  | string (s : String) : Numberless (.string s)
  /-- An array whose items hold none. -/
  | array {items : List Json} (h : ∀ item ∈ items, Numberless item) : Numberless (.array items)
  /-- An object whose members hold none. -/
  | object {members : List (String × Json)} (h : ∀ member ∈ members, Numberless member.2) :
    Numberless (.object members)

/-- The characters that are tokens by themselves. -/
def marks : List Char := ['[', ']', '\x7b', '\x7d', ':', ',']

/-- The characters that do not count between tokens. -/
def blanks : List Char := [' ', '\n', '\r', '\t']

/-- No word or number in front of `text` goes on in it. -/
def EndsWord (text : List Char) : Prop := ∀ c ∈ text.head?, isScalarChar c = false

namespace EndsWord

variable {text rest : List Char}

/-- A text that ends a word does so with more behind it. -/
theorem append (htext : EndsWord text) (hrest : EndsWord rest) : EndsWord (text ++ rest) := by
  cases text with
  | nil => exact hrest
  | cons c text => exact htext

/-- No character of a word begins a text that ends one. -/
theorem takeWhile (h : EndsWord text) : text.takeWhile isScalarChar = [] := by
  cases text with
  | nil => rfl
  | cons c text => exact List.takeWhile_cons_of_neg (by simp [h c rfl])

/-- Nothing of a text that ends a word is passed over as a word. -/
theorem dropWhile (h : EndsWord text) : text.dropWhile isScalarChar = text := by
  cases text with
  | nil => rfl
  | cons c text => exact List.dropWhile_cons_of_neg (by simp [h c rfl])

end EndsWord

/-- The reader cuts `text` into `tokens`, whatever follows, as long as it ends a word. -/
def Cuts (text : List Char) (tokens : List Token) : Prop :=
  ∀ rest, EndsWord rest → tokens? (text ++ rest) = (tokens? rest).map (tokens ++ ·)

namespace Cuts

variable {text text' : List Char} {tokens tokens' : List Token}

/-- Nothing is cut into nothing. -/
theorem nil : Cuts [] [] := fun rest _ => by simp

/-- Two texts are cut one by one when no word runs from the first into the second. -/
theorem append (h : Cuts text tokens) (h' : Cuts text' tokens') (hends : EndsWord text') :
    Cuts (text ++ text') (tokens ++ tokens') := by
  intro rest hrest
  rw [List.append_assoc, h _ (hends.append hrest), h' rest hrest, Option.map_map]
  congr 1
  funext later
  simp

/-- A mark is a token of its own. -/
theorem mark {c : Char} (hc : c ∈ marks) (h : Cuts text tokens) :
    Cuts (c :: text) (.mark c :: tokens) := by
  intro rest hrest
  have hdisjoint : marks.Disjoint blanks := by simp [marks, blanks]
  have hblank : ¬ (c = ' ' ∨ c = '\n' ∨ c = '\r' ∨ c = '\t') := by
    simpa [blanks] using hdisjoint hc
  rw [List.cons_append, tokens?, if_neg hblank, if_pos (by simpa [marks] using hc), h rest hrest,
    Option.map_map]
  rfl

/-- A blank is no token. -/
theorem blank {c : Char} (hc : c ∈ blanks) (h : Cuts text tokens) : Cuts (c :: text) tokens := by
  intro rest hrest
  rw [List.cons_append, tokens?, if_pos (by simpa [blanks] using hc), h rest hrest]

/-- The beginning of a line is blank. -/
theorem newline (level : Nat) (h : Cuts text tokens) : Cuts (newline level ++ text) tokens := by
  have hindent : ∀ n, Cuts (List.replicate n ' ' ++ text) tokens := by
    intro n
    induction n with
    | zero => exact h
    | succ n ih => exact ih.blank (by decide)
  exact (hindent (2 * level)).blank (by decide)

/-- A written text is one token. -/
theorem writtenString (s : String) (h : Cuts text tokens) :
    Cuts (writtenString s ++ text) (.scalar (.string s) :: tokens) := by
  intro rest hrest
  have hbody : stringBody? none (s.toList.flatMap escapedChar ++ '"' :: (text ++ rest)) =
      some (s.toList, text ++ rest) := stringBody?_flatMap_escapedChar _ _
  simp only [Json.writtenString, List.cons_append, List.append_assoc, List.nil_append]
  rw [tokens?, if_neg (by decide), if_neg (by decide), if_pos rfl]
  split
  next hread => simp [hbody] at hread
  next body later hread =>
    obtain ⟨rfl, rfl⟩ : s.toList = body ∧ text ++ rest = later := by simpa [hbody] using hread
    rw [h rest hrest, Option.map_map, String.ofList_toList]
    rfl

/-- A word is one token: the run of scalar characters ends with it. -/
theorem word {c : Char} {word : List Char} {j : Json}
    (hword : (c :: word).all isScalarChar = true) (hj : scalar? (c :: word) = some j) :
    Cuts (c :: word) [.scalar j] := by
  intro rest hrest
  obtain ⟨hhead, htail⟩ := List.forall_mem_cons.mp (List.all_eq_true.mp hword)
  have htake : (word ++ rest).takeWhile isScalarChar = word := by
    rw [List.takeWhile_append_of_pos htail, hrest.takeWhile, List.append_nil]
  have hdrop : (word ++ rest).dropWhile isScalarChar = rest := by
    rw [List.dropWhile_append_of_pos htail, hrest.dropWhile]
  have hother : ('"' :: (blanks ++ marks)).all (fun d => !isScalarChar d) = true := by decide
  have hc : ∀ d ∈ '"' :: (blanks ++ marks), c ≠ d := by
    rintro d hd rfl
    have hnot := List.all_eq_true.mp hother c hd
    rw [hhead] at hnot
    cases hnot
  simp only [blanks, marks, List.cons_append, List.nil_append, List.mem_cons, List.not_mem_nil,
    or_false, forall_eq_or_imp, forall_eq] at hc
  rw [List.cons_append, tokens?, if_neg (by simp [hc]), if_neg (by simp [hc]),
    if_neg (by simp [hc]), htake, hdrop, hj]
  rfl

end Cuts

/-- The items of an array end a word in front of them. -/
theorem endsWord_prettyItems (level : Nat) (items : List Json) :
    EndsWord (prettyItems level items) := by
  cases items <;> simp [EndsWord, prettyItems, isScalarChar]

/-- The members of an object end a word in front of them. -/
theorem endsWord_prettyMembers (level : Nat) (members : List (String × Json)) :
    EndsWord (prettyMembers level members) := by
  cases members <;> simp [EndsWord, prettyMembers, isScalarChar]

/-- A line break in front of a bracket ends a word. -/
theorem endsWord_closing (level : Nat) (c : Char) : EndsWord (newline level ++ [c]) := by
  simp [EndsWord, newline, isScalarChar]

/-- The closing bracket or brace of several lines stands on a line of its own. -/
theorem cuts_closing (level : Nat) {c : Char} (hc : c ∈ marks) :
    Cuts (newline level ++ [c]) [.mark c] :=
  .newline level (.mark hc .nil)

/-- The items of an array are cut into their tokens when each of them is. -/
theorem cuts_prettyItems {level : Nat} {items : List Json}
    (h : ∀ item ∈ items, Cuts (prettyAt level item) (tokensOf item)) :
    Cuts (prettyItems level items) (tokensOfItems items) := by
  induction items with
  | nil => exact .nil
  | cons item items ih =>
    obtain ⟨hitem, hitems⟩ := List.forall_mem_cons.mp h
    have hrest := hitem.append (ih hitems) (endsWord_prettyItems level items)
    simp only [prettyItems, tokensOfItems, List.cons_append, List.append_assoc]
    exact .mark (by decide) (.newline _ hrest)

/-- The members of an object are cut into their tokens when the value of each is. -/
theorem cuts_prettyMembers {level : Nat} {members : List (String × Json)}
    (h : ∀ member ∈ members, Cuts (prettyAt level member.2) (tokensOf member.2)) :
    Cuts (prettyMembers level members) (tokensOfMembers members) := by
  induction members with
  | nil => exact .nil
  | cons member members ih =>
    obtain ⟨hvalue, hmembers⟩ := List.forall_mem_cons.mp h
    have hrest := hvalue.append (ih hmembers) (endsWord_prettyMembers level members)
    have hcolon : Cuts (':' :: ' ' :: _) _ := .mark (by decide) (.blank (by decide) hrest)
    simp only [prettyMembers, tokensOfMembers, List.cons_append, List.append_assoc]
    exact .mark (by decide) (.newline _ (.writtenString _ hcolon))

/-- The text of a value without numbers is cut into the tokens of the value, at whatever level it
stands. -/
theorem Numberless.cuts_prettyAt {j : Json} (h : Numberless j) (level : Nat) :
    Cuts (prettyAt level j) (tokensOf j) := by
  induction h generalizing level with
  | null => exact .word (by decide) rfl
  | bool b => cases b <;> exact .word (by decide) rfl
  | string s =>
    have htext := Cuts.writtenString s .nil
    rwa [List.append_nil] at htext
  | @array items h ih =>
    cases items with
    | nil =>
      have htext : prettyAt level (.array []) = ['[', ']'] := rfl
      rw [htext]
      exact .mark (by decide) (.mark (by decide) .nil)
    | cons item items =>
      obtain ⟨hitem, hitems⟩ := List.forall_mem_cons.mp ih
      have hrest := (cuts_prettyItems fun item hi => hitems item hi (level + 1)).append
        (cuts_closing level (c := ']') (by decide)) (endsWord_closing level ']')
      have hends := (endsWord_prettyItems (level + 1) items).append (endsWord_closing level ']')
      have hbody := (hitem (level + 1)).append hrest hends
      simp only [prettyAt, tokensOf, List.cons_append, List.append_assoc]
      exact .mark (by decide) (.newline _ hbody)
  | @object members h ih =>
    cases members with
    | nil => exact .mark (by decide) (.mark (by decide) .nil)
    | cons member members =>
      obtain ⟨hvalue, hmembers⟩ := List.forall_mem_cons.mp ih
      have hrest := (cuts_prettyMembers fun member hm => hmembers member hm (level + 1)).append
        (cuts_closing level (c := '\x7d') (by decide)) (endsWord_closing level '\x7d')
      have hends :=
        (endsWord_prettyMembers (level + 1) members).append (endsWord_closing level '\x7d')
      have hbody := (hvalue (level + 1)).append hrest hends
      have hcolon : Cuts (':' :: ' ' :: _) _ := .mark (by decide) (.blank (by decide) hbody)
      simp only [prettyAt, tokensOf, List.cons_append, List.append_assoc]
      exact .mark (by decide) (.newline _ (.writtenString _ hcolon))

/-- The machine comes from `s` to `s'` with `tokens`. -/
def Runs (s : State) (tokens : List Token) (s' : State) : Prop :=
  tokens.foldlM State.next? s = some s'

namespace Runs

variable {s s' s'' : State} {token : Token} {tokens tokens' : List Token}

/-- Without tokens the machine stays where it is. -/
theorem nil (s : State) : Runs s [] s := rfl

/-- The machine takes one token and then the others. -/
theorem cons (hstep : s.next? token = some s') (h : Runs s' tokens s'') :
    Runs s (token :: tokens) s'' := by
  rw [Runs, List.foldlM_cons, hstep]
  exact h

/-- The machine takes tokens and then others. -/
theorem append (h : Runs s tokens s') (h' : Runs s' tokens' s'') :
    Runs s (tokens ++ tokens') s'' := by
  rw [Runs, List.foldlM_append, h]
  exact h'

end Runs

/-- Behind the opening bracket of an array, every token but the closing one is read as the beginning
of a value. -/
theorem State.next?_firstItem (frames : List Frame) {token : Token} (h : token ≠ .mark ']') :
    next? (.firstItem frames) token = next? (.value frames) token := by
  cases token with
  | mark c =>
    have hc : c ≠ ']' := fun heq => h (heq ▸ rfl)
    unfold next?
    split <;> simp_all
  | scalar j =>
    cases frames with
    | nil => rfl
    | cons frame frames => cases frame <;> rfl

/-- No value begins with a closing bracket. -/
theorem tokensOf_eq_cons (j : Json) :
    ∃ token tokens, tokensOf j = token :: tokens ∧ token ≠ .mark ']' := by
  fun_cases tokensOf j <;> simp

/-- What can be read as a value can be read as the first item of an array. -/
theorem Runs.firstItem {j : Json} {frames : List Frame} {s : State}
    (h : Runs (.value frames) (tokensOf j) s) : Runs (.firstItem frames) (tokensOf j) s := by
  obtain ⟨token, tokens, htokens, hne⟩ := tokensOf_eq_cons j
  rw [Runs, htokens, List.foldlM_cons] at h ⊢
  rwa [State.next?_firstItem frames hne]

mutual

/-- Where a value is expected, the tokens of a value end with the value finished. -/
theorem runs_tokensOf : ∀ (j : Json) (frames : List Frame),
    Runs (.value frames) (tokensOf j) (.finished j frames)
  | .null, _ | .bool _, _ | .integer _, _ | .real _, _ | .string _, _ => .cons rfl (.nil _)
  | .array [], _ | .object [], _ => .cons rfl (.cons rfl (.nil _))
  | .array (item :: items), frames => by
    have hitem := (runs_tokensOf item (.array [] :: frames)).firstItem
    have hitems := runs_tokensOfItems items item [] frames
    simp only [tokensOf, List.append_assoc, List.cons_append]
    exact .cons rfl (hitem.append hitems)
  | .object ((key, value) :: members), frames => by
    have hvalue := runs_tokensOf value (.object [] key :: frames)
    have hmembers := runs_tokensOfMembers members key value [] frames
    simp only [tokensOf, List.append_assoc, List.cons_append]
    exact .cons rfl (.cons rfl (.cons rfl (hvalue.append hmembers)))

/-- Behind the first items of an array, the tokens of the others end with the array finished. -/
theorem runs_tokensOfItems : ∀ (items : List Json) (item : Json) (done : List Json)
    (frames : List Frame),
    Runs (.finished item (.array done :: frames)) (tokensOfItems items ++ [.mark ']'])
      (.finished (.array (done.reverse ++ item :: items)) frames)
  | [], item, done, frames => by
    rw [← List.reverse_cons]
    exact .cons rfl (.nil _)
  | next :: items, item, done, frames => by
    have hnext := runs_tokensOf next (.array (item :: done) :: frames)
    have hitems := runs_tokensOfItems items next (item :: done) frames
    rw [List.reverse_cons, List.append_assoc] at hitems
    simp only [tokensOfItems, List.append_assoc, List.cons_append]
    exact .cons rfl (hnext.append hitems)

/-- Behind the first members of an object, the tokens of the others end with the object finished. -/
theorem runs_tokensOfMembers : ∀ (members : List (String × Json)) (key : String) (value : Json)
    (done : List (String × Json)) (frames : List Frame),
    Runs (.finished value (.object done key :: frames)) (tokensOfMembers members ++ [.mark '\x7d'])
      (.finished (.object (done.reverse ++ (key, value) :: members)) frames)
  | [], key, value, done, frames => by
    rw [← List.reverse_cons]
    exact .cons rfl (.nil _)
  | (next, nextValue) :: members, key, value, done, frames => by
    have hnext := runs_tokensOf nextValue (.object ((key, value) :: done) next :: frames)
    have hmembers := runs_tokensOfMembers members next nextValue ((key, value) :: done) frames
    rw [List.reverse_cons, List.append_assoc] at hmembers
    simp only [tokensOfMembers, List.append_assoc, List.cons_append]
    exact .cons rfl (.cons rfl (.cons rfl (hnext.append hmembers)))

end

/-- The tokens of a value are read as the value. -/
theorem ofTokens?_tokensOf (j : Json) : ofTokens? (tokensOf j) = some j := by
  have hrun : (tokensOf j).foldlM State.next? (.value []) = some (.finished j []) :=
    runs_tokensOf j []
  rw [ofTokens?, hrun]
  rfl

/-- The text of a value without numbers, with the line break behind it, is read as the value. -/
theorem Numberless.parse?_pretty {j : Json} (h : Numberless j) :
    parse? (j.pretty ++ "\n") = some j := by
  have htext : (j.pretty ++ "\n").toList = prettyAt 0 j ++ ['\n'] := by simp [pretty]
  have hbreak : tokens? ['\n'] = some [] := by simp [tokens?]
  have htokens : tokens? (prettyAt 0 j ++ ['\n']) = some (tokensOf j) := by
    rw [h.cuts_prettyAt 0 ['\n'] (by simp [EndsWord, isScalarChar]), hbreak]
    simp
  rw [parse?, htext, htokens]
  exact ofTokens?_tokensOf j

end ClassGraph.Json
