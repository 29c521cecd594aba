import ClassGraph.Text.Property.Alphabetic
import ClassGraph.Text.Property.Combining
import ClassGraph.Text.Property.Numeric
import ClassGraph.Text.Property.Unprintable
import ClassGraph.Text.Property.Uppercase

/-!
# Classes of characters

The classes that names, types and messages are read and written by: blanks, letters, digits,
capitals, and the characters that a quoted message shows as themselves. ASCII is decided by
comparison, all else by the property tables. `not_isLetter_of_isSpace` and its neighbours say that
no blank is part of a name.
-/

namespace ClassGraph.Text

/-- The code points of the Unicode property White_Space. -/
def spaces : List Nat :=
  [0x09, 0x0A, 0x0B, 0x0C, 0x0D, 0x20, 0x85, 0xA0, 0x1680, 0x2000, 0x2001, 0x2002, 0x2003, 0x2004,
    0x2005, 0x2006, 0x2007, 0x2008, 0x2009, 0x200A, 0x2028, 0x2029, 0x202F, 0x205F, 0x3000]

/-- A blank: white space by Unicode. -/
def isSpace (c : Char) : Bool := spaces.contains c.toNat

/-- Membership of a code point in a table of inclusive ranges. -/
def inRanges (table : List (Nat × Nat)) (n : Nat) : Bool :=
  table.any fun range => range.1 ≤ n && n ≤ range.2

/-- A letter, by the Unicode property Alphabetic. -/
def isLetter (c : Char) : Bool :=
  if c.toNat < 128 then c.isAlpha else inRanges Property.letters c.toNat

/-- A number: a decimal digit, letter number or other number. -/
def isNumber (c : Char) : Bool :=
  if c.toNat < 128 then c.isDigit else inRanges Property.numbers c.toNat

/-- A letter or a number. -/
def isLetterOrNumber (c : Char) : Bool := isLetter c || isNumber c

/-- A character of a simple name: a letter, a number or an underscore. -/
def isNameChar (c : Char) : Bool := isLetterOrNumber c || c == '_'

/-- A capital, by the Unicode property Uppercase. -/
def isCapital (c : Char) : Bool :=
  if c.toNat < 128 then c.isUpper else inRanges Property.capitals c.toNat

/-- A mark that joins the character in front of it. -/
def isCombining (c : Char) : Bool :=
  128 ≤ c.toNat && inRanges Property.combining c.toNat

/-- A character with a printed form of its own. -/
def isPrintable (c : Char) : Bool :=
  if c.toNat < 128 then 0x20 ≤ c.toNat && c.toNat != 0x7F
  else !inRanges Property.unprintable c.toNat

/-- The lower case form of an ASCII capital; every other character stands for itself. -/
def lowerAscii (c : Char) : Char := if c.isUpper then c.toLower else c

/-- The text with its ASCII capitals in lower case. -/
def toLowerAscii (s : String) : String := String.ofList (s.toList.map lowerAscii)

/-- No blank is a letter. -/
theorem not_isLetter_of_isSpace {c : Char} (h : isSpace c = true) : isLetter c = false := by
  have hall : ∀ n ∈ spaces,
      (if n < 128 then (Char.ofNat n).isAlpha else inRanges Property.letters n) = false := by
    decide +kernel
  have hc : c.toNat ∈ spaces := by simpa [isSpace] using h
  have := hall _ hc
  rwa [Char.ofNat_toNat] at this

/-- No blank is a number. -/
theorem not_isNumber_of_isSpace {c : Char} (h : isSpace c = true) : isNumber c = false := by
  have hall : ∀ n ∈ spaces,
      (if n < 128 then (Char.ofNat n).isDigit else inRanges Property.numbers n) = false := by
    decide +kernel
  have hc : c.toNat ∈ spaces := by simpa [isSpace] using h
  have := hall _ hc
  rwa [Char.ofNat_toNat] at this

/-- No blank is part of a simple name. -/
theorem not_isNameChar_of_isSpace {c : Char} (h : isSpace c = true) : isNameChar c = false := by
  have hu : c ≠ '_' := by
    rintro rfl
    exact absurd h (by decide)
  simp [isNameChar, isLetterOrNumber, not_isLetter_of_isSpace h, not_isNumber_of_isSpace h, hu]

end ClassGraph.Text
