import SqlCells.Text.Unicode.Alphabetic
import SqlCells.Text.Unicode.Numeric

/-!
# Classes of characters

Blanks, letters and digits as Unicode defines them, for every code point, and the few ASCII classes
that the formats of this library name.  Membership in a table of ranges is decided by a linear scan:
texts here are commands typed by a person.
-/

namespace SqlCells
namespace Text

/-- Whether a code point lies in one of the closed ranges. -/
def inRanges (ranges : List (Nat × Nat)) (c : Char) : Bool :=
  ranges.any fun r => decide (r.1 ≤ c.toNat) && decide (c.toNat ≤ r.2)

/-- The code points with the Unicode property `White_Space`. -/
def blankRanges : List (Nat × Nat) :=
  [(0x9, 0xD), (0x20, 0x20), (0x85, 0x85), (0xA0, 0xA0), (0x1680, 0x1680), (0x2000, 0x200A),
   (0x2028, 0x2029), (0x202F, 0x202F), (0x205F, 0x205F), (0x3000, 0x3000)]

/-- A blank: any character with the Unicode property `White_Space`. -/
def isBlank (c : Char) : Bool :=
  inRanges blankRanges c

/-- A letter: any character with the derived Unicode property `Alphabetic`. -/
def isLetter (c : Char) : Bool :=
  if c.toNat < 0x80 then c.isAlpha else inRanges Unicode.alphabeticRanges c

/-- A letter or a character of one of the number categories. -/
def isLetterOrNumber (c : Char) : Bool :=
  if c.toNat < 0x80 then c.isAlphanum
  else inRanges Unicode.alphabeticRanges c || inRanges Unicode.numericRanges c

/-- A character of one of the number categories. -/
def isNumber (c : Char) : Bool :=
  c.isDigit || inRanges Unicode.numericRanges c

/-- The value of a hexadecimal digit in either case. -/
def hexValue? (c : Char) : Option Nat :=
  if '0' ≤ c ∧ c ≤ '9' then some (c.toNat - '0'.toNat)
  else if 'a' ≤ c ∧ c ≤ 'f' then some (c.toNat - 'a'.toNat + 10)
  else if 'A' ≤ c ∧ c ≤ 'F' then some (c.toNat - 'A'.toNat + 10)
  else none

/-- A hexadecimal digit in either case. -/
def isHexDigit (c : Char) : Bool :=
  (hexValue? c).isSome

/-- The lower-case hexadecimal digit of a number below sixteen. -/
def hexDigit (n : Nat) : Char :=
  if n < 10 then Char.ofNat ('0'.toNat + n) else Char.ofNat ('a'.toNat + (n - 10))

/-- The upper-case hexadecimal digit of a number below sixteen. -/
def upperHexDigit (n : Nat) : Char :=
  if n < 10 then Char.ofNat ('0'.toNat + n) else Char.ofNat ('A'.toNat + (n - 10))

/-- Two lower-case hexadecimal digits for a byte. -/
def hexByte (b : UInt8) : List Char :=
  [hexDigit (b.toNat / 16), hexDigit (b.toNat % 16)]

end Text
end SqlCells
