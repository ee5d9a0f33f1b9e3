import SqlCells.Text.CharClass
import SqlCells.Text.Unicode.GraphemeExtend
import SqlCells.Text.Unicode.Unprintable

/-!
# Escaped text for diagnostics

A text in double quotes in which every character is visible: the quote and the backslash are
escaped, line breaks, tabs and NUL have letters, and characters that cannot be printed or that would
join the character before them are given by code point.
-/

namespace SqlCells
namespace Text

/-- The hexadecimal digits of a number, lower case, without leading zeros. -/
def hexDigits (n : Nat) : List Char :=
  Nat.toDigits 16 n

/-- One character as it appears inside the quotes. -/
def escapeChar (c : Char) : List Char :=
  if c = '"' then ['\\', '"']
  else if c = '\\' then ['\\', '\\']
  else if c = '\n' then ['\\', 'n']
  else if c = '\r' then ['\\', 'r']
  else if c = '\t' then ['\\', 't']
  else if c.toNat = 0 then ['\\', '0']
  else if ' ' ≤ c ∧ c ≤ '~' then [c]
  else if inRanges Unicode.graphemeExtendRanges c || inRanges Unicode.unprintableRanges c then
    ['\\', 'u', '\x7b'] ++ hexDigits c.toNat ++ ['\x7d']
  else [c]

/-- The text in double quotes with every unprintable character escaped. -/
def quoted (s : List Char) : List Char :=
  '"' :: s.flatMap escapeChar ++ ['"']

end Text
end SqlCells
