import SqlCells.Text.CharClass
import SqlCells.Text.Unicode.CaseMaps
import SqlCells.Text.Unicode.Cased
import SqlCells.Text.Unicode.CaseIgnorable

/-!
# Upper and lower case

Full Unicode case mapping of texts: a character may map to several, and a capital sigma becomes the
final form at the end of a word.  `asciiUpper` and `asciiLower` change the twenty-six ASCII letters
only.
-/

namespace SqlCells
namespace Text

/-- Characters of a list of code points. -/
def ofCodePoints (ns : List Nat) : List Char :=
  ns.map Char.ofNat

/-- The upper-case form of one character. -/
def upperChar (c : Char) : List Char :=
  if c.toNat < 0x80 then [c.toUpper]
  else match Unicode.upperExpansions.lookup c.toNat with
    | some ns => ofCodePoints ns
    | none => [Char.ofNat (Unicode.CaseRun.apply Unicode.upperRuns c.toNat)]

/-- The lower-case form of one character, context aside. -/
def lowerChar (c : Char) : List Char :=
  if c.toNat < 0x80 then [c.toLower]
  else match Unicode.lowerExpansions.lookup c.toNat with
    | some ns => ofCodePoints ns
    | none => [Char.ofNat (Unicode.CaseRun.apply Unicode.lowerRuns c.toNat)]

/-- The upper-case form of a text. -/
def upper (s : List Char) : List Char :=
  s.flatMap upperChar

/-- Whether a cased character comes first, once characters that case ignores are passed over. -/
def casedNext : List Char → Bool
  | [] => false
  | c :: rest =>
    if inRanges Unicode.caseIgnorableRanges c then casedNext rest
    else inRanges Unicode.casedRanges c

/-- Lower-cases the rest of a text, given the text already passed, last character first. -/
def lowerAfter (passed : List Char) : List Char → List Char
  | [] => []
  | c :: rest =>
    let image :=
      if c = 'Σ' then
        if casedNext passed && !casedNext rest then ['ς'] else ['σ']
      else lowerChar c
    image ++ lowerAfter (c :: passed) rest

/-- The lower-case form of a text. A capital sigma that ends a word becomes a final sigma. -/
def lower (s : List Char) : List Char :=
  lowerAfter [] s

/-- Upper-cases the ASCII letters of a text. -/
def asciiUpper (s : List Char) : List Char :=
  s.map Char.toUpper

/-- Lower-cases the ASCII letters of a text. -/
def asciiLower (s : List Char) : List Char :=
  s.map Char.toLower

/-- Equality up to the case of ASCII letters. -/
def eqIgnoringAsciiCase (a b : List Char) : Bool :=
  asciiLower a == asciiLower b

end Text
end SqlCells
