import ClassGraph.Text.Basic

/-!
# Globs

A glob is a pattern for paths. Paths are compared byte by byte. `Glob.parse` reads a glob, and
`Glob.covers` says which paths it stands for: `GlobPart.ends` collects what is left of a path
behind each way in which a part of the glob can match its beginning.
-/

namespace ClassGraph

/-- A part of a glob. -/
inductive GlobPart where
  /-- One given byte. -/
  | byte (b : UInt8)
  /-- Any byte. -/
  | any
  /-- Any run of bytes. -/
  | star
  /-- Folders in front of the rest, or none. -/
  | leading
  /-- Folders between two names, or none. -/
  | between
  /-- Everything in a folder. -/
  | trailing
  /-- A byte in one of some ranges, or in none of them. -/
  | range (isNegated : Bool) (ranges : List (UInt8 × UInt8))
  /-- One of several patterns; those that are blank do not count. -/
  | choice (alternatives : List (List GlobPart))
deriving Inhabited

/-- A glob, as its parts. -/
structure Glob where
  /-- The parts. -/
  parts : List GlobPart

/-- Why a text is no glob. -/
inductive GlobError where
  /-- A class of characters does not end. -/
  | unclosedClass
  /-- A range of characters ends before it starts. -/
  | invalidRange (first last : Char)
  /-- A group of alternatives ends that has not begun. -/
  | unopenedGroup
  /-- A group of alternatives does not end. -/
  | unclosedGroup
  /-- Nothing follows a backslash. -/
  | danglingEscape
deriving DecidableEq, Repr

/-- What is wrong with a glob. -/
def GlobError.reason : GlobError → String
  | .unclosedClass => "unclosed character class; missing ']'"
  | .invalidRange first last => s!"invalid character range; '{first}' > '{last}'"
  | .unopenedGroup =>
    "unopened alternate group; missing '\x7b' (maybe escape '\x7d' with '[\x7d]'?)"
  | .unclosedGroup =>
    "unclosed alternate group; missing '\x7d' (maybe escape '\x7b' with '[\x7b]'?)"
  | .danglingEscape => "dangling '\\'"

/-- The wording of an error in a glob. -/
def GlobError.message (glob : String) (e : GlobError) : String :=
  "error parsing glob '" ++ glob ++ "': " ++ e.reason

namespace Glob

/-- The slash between the names of a path. -/
def slash : UInt8 := 47

/-- The bytes of a text. -/
def bytes (s : List Char) : List UInt8 := (String.ofList s).toUTF8.data.toList

/-! ## Matching -/

/-- The ends of a text that are left behind a run of bytes on which `p` holds. -/
def endsWhile (p : UInt8 → Bool) : List UInt8 → List (List UInt8)
  | [] => [[]]
  | b :: s => (b :: s) :: if p b then endsWhile p s else []

/-- The ends of a text behind each of its slashes. -/
def behindSlashes : List UInt8 → List (List UInt8)
  | [] => []
  | b :: s => if b = slash then s :: behindSlashes s else behindSlashes s

mutual

/-- Whether a part stands for nothing at all: a choice without an alternative. -/
def isBlank : GlobPart → Bool
  | .choice alternatives => areBlank alternatives
  | _ => false

/-- Whether every part of a pattern is blank. -/
def isBlankPattern : List GlobPart → Bool
  | [] => true
  | part :: parts => isBlank part && isBlankPattern parts

/-- Whether all alternatives are blank. -/
def areBlank : List (List GlobPart) → Bool
  | [] => true
  | pattern :: patterns => isBlankPattern pattern && areBlank patterns

end

mutual

/-- What can be left of a text behind a part that matches its beginning. Where slashes separate,
neither a star nor a single unknown byte matches one. -/
def ends (separates : Bool) : GlobPart → List UInt8 → List (List UInt8)
  | .byte b, s => if s.head? = some b then [s.tail] else []
  | .any, s => if s.head?.any fun b => !(separates && b == slash) then [s.tail] else []
  | .star, s => endsWhile (fun b => !(separates && b == slash)) s
  | .leading, s => s :: behindSlashes s
  | .between, s => if s.head? = some slash then behindSlashes s else []
  | .trailing, s => if s.head? = some slash then endsWhile (fun _ => true) s.tail else []
  | .range isNegated ranges, s =>
    let isIn (b : UInt8) : Bool := ranges.any fun (low, high) => low ≤ b && b ≤ high
    if s.head?.any fun b => isIn b != isNegated then [s.tail] else []
  | .choice alternatives, s =>
    if areBlank alternatives then [s] else endsOfChoice separates alternatives s

/-- What can be left of some texts behind the parts of a pattern. -/
def endsOfPattern (separates : Bool) : List GlobPart → List (List UInt8) → List (List UInt8)
  | [], texts => texts
  | part :: parts, texts =>
    endsOfPattern separates parts (texts.flatMap fun s => ends separates part s).eraseDups

/-- What can be left of a text behind one of several patterns. -/
def endsOfChoice (separates : Bool) : List (List GlobPart) → List UInt8 → List (List UInt8)
  | [], _ => []
  | pattern :: patterns, s =>
    (if isBlankPattern pattern then [] else endsOfPattern separates pattern [s]) ++
      endsOfChoice separates patterns s

end

/-- Whether a glob stands for a path. -/
def covers (separates : Bool) (g : Glob) (path : List UInt8) : Bool :=
  match g.parts with
  | [.leading] => true
  | parts => (endsOfPattern separates parts [path]).any List.isEmpty

/-! ## Reading -/

/-- The parts of a glob that have been read. -/
structure Progress where
  /-- The parts of the innermost pattern, latest first. -/
  held : List GlobPart := []
  /-- The open groups, innermost first: the alternatives so far and the parts in front of the
  group, latest first. -/
  opened : List (List (List GlobPart) × List GlobPart) := []
  /-- Whether opening square brackets stand for themselves. -/
  isBracketPlain : Bool := false

/-- One more character that stands for itself. -/
def Progress.pushChar (p : Progress) (c : Char) : Progress :=
  { p with held := ((bytes [c]).map .byte).reverse ++ p.held }

/-- The ranges of the bytes that the characters of a range are written with. -/
def byteRanges (range : Char × Char) : List (UInt8 × UInt8) :=
  let single (b : UInt8) := (b, b)
  let low := bytes [range.1]
  if range.1 = range.2 then low.map single
  else
    let high := bytes [range.2]
    low.dropLast.map single ++ [(low.getLastD 0, high.headD 0)] ++ high.tail.map single

/-- A class of characters behind its opening bracket and the mark of negation: its ranges and how
many characters it has, when it ends. A bracket that closes and stands first is one of its
characters. -/
def classRanges (isFirst inRange : Bool) (ranges : List (Char × Char)) (count : Nat) :
    List Char → Except GlobError (Option (List (Char × Char) × Nat))
  | [] => .ok none
  | c :: cs =>
    if c = ']' ∧ !isFirst then
      .ok (some ((if inRange then ('-', '-') :: ranges else ranges).reverse, count + 1))
    else if c = '-' ∧ !isFirst ∧ !inRange then classRanges false true ranges (count + 1) cs
    else
      match inRange, ranges with
      | true, (low, _) :: more =>
        if c < low then .error (.invalidRange low c)
        else classRanges false false ((low, c) :: more) (count + 1) cs
      | _, _ => classRanges false false ((c, c) :: ranges) (count + 1) cs

/-- The progress behind an opening square bracket, and how many further characters are read. A
class that does not end is refused, or its bracket stands for itself. -/
def readClass (isLenient : Bool) (p : Progress) (cs : List Char) :
    Except GlobError (Progress × Nat) := do
  let isNegated := cs.head? = some '!' ∨ cs.head? = some '^'
  let mark := if isNegated then 1 else 0
  match ← classRanges true false [] mark (cs.drop mark) with
  | some (ranges, count) =>
    return ({ p with held := .range isNegated (ranges.flatMap byteRanges) :: p.held }, count)
  | none =>
    if isLenient then return ({ p with isBracketPlain := true }.pushChar '[', 0)
    else throw .unclosedClass

/-- The parts with the one that was read last deepened: a slash with stars behind it reaches into
folders. -/
def deepen (part : GlobPart) : List GlobPart → List GlobPart
  | .leading :: parts => .leading :: parts
  | .trailing :: parts => .trailing :: parts
  | _ :: parts => part :: parts
  | [] => [part]

/-- The parts behind a star, and how many further characters are read. Two stars reach into folders
when they are all there is between two slashes. -/
def readStar (inGroup : Bool) (previous : Option Char) (held : List GlobPart) (cs : List Char) :
    List GlobPart × Nat :=
  match cs with
  | '*' :: rest =>
    let plain := (.star :: .star :: held, 1)
    if held.isEmpty then
      match rest with
      | [] => ([.leading], 1)
      | c :: _ => if c = '/' then ([.leading], 2) else plain
    else if previous ≠ some '/' ∧ !(inGroup && [some ',', some '\x7b'].contains previous) then plain
    else
      match rest with
      | [] => (deepen .trailing held, 1)
      | c :: _ =>
        if c = '/' then (deepen .between held, 2)
        else if inGroup ∧ (c = ',' ∨ c = '\x7d') then (deepen .trailing held, 1)
        else plain
  | _ => (.star :: held, 0)

/-- The progress behind one character, and how many further characters are read with it. -/
def read (isLenient : Bool) (p : Progress) (previous : Option Char) (c : Char) (cs : List Char) :
    Except GlobError (Progress × Nat) :=
  if c = '?' then .ok ({ p with held := .any :: p.held }, 0)
  else if c = '*' then
    let (held, count) := readStar (!p.opened.isEmpty) previous p.held cs
    .ok ({ p with held }, count)
  else if c = '[' ∧ !p.isBracketPlain then readClass isLenient p cs
  else if c = '\x7b' then .ok ({ p with held := [], opened := ([], p.held) :: p.opened }, 0)
  else if c = '\x7d' then
    match p.opened with
    | [] => .error .unopenedGroup
    | (earlier, outer) :: opened =>
      let alternatives := (p.held.reverse :: earlier).reverse
      .ok ({ p with held := .choice alternatives :: outer, opened }, 0)
  else if c = ',' then
    match p.opened with
    | [] => .ok (p.pushChar c, 0)
    | (earlier, outer) :: opened =>
      .ok ({ p with held := [], opened := (p.held.reverse :: earlier, outer) :: opened }, 0)
  else if c = '\\' then
    match cs with
    | [] => .error .danglingEscape
    | escaped :: _ => .ok (p.pushChar escaped, 1)
  else .ok (p.pushChar c, 0)

/-- The parts of a glob behind `previous`. -/
def readAll (isLenient : Bool) (p : Progress) (previous : Option Char) :
    List Char → Except GlobError (List GlobPart)
  | [] => if p.opened.isEmpty then .ok p.held.reverse else .error .unclosedGroup
  | c :: cs =>
    match read isLenient p previous c cs with
    | .error e => .error e
    | .ok (p, count) => readAll isLenient p (c :: cs)[count]? (cs.drop count)
termination_by s => s.length
decreasing_by simp only [List.length_drop, List.length_cons]; omega

/-- The glob that a text writes. -/
def parse (isLenient : Bool) (glob : List Char) : Except GlobError Glob :=
  (readAll isLenient {} none glob).map Glob.mk

end Glob

end ClassGraph
