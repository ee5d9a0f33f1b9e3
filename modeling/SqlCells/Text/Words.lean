import SqlCells.Text.CharClass

/-!
# Blanks around and between words

Trimming, cutting at blanks, cutting at a separator, lines and searching, all on lists of characters.
-/

namespace SqlCells
namespace Text

/-- Drops blanks from the front. -/
def trimStart (s : List Char) : List Char :=
  s.dropWhile isBlank

/-- Drops the longest tail whose characters all satisfy `p`. -/
def dropTailWhile (p : Char → Bool) (s : List Char) : List Char :=
  (s.reverse.dropWhile p).reverse

/-- Drops blanks from the end. -/
def trimEnd (s : List Char) : List Char :=
  dropTailWhile isBlank s

/-- Drops blanks from both ends. -/
def trim (s : List Char) : List Char :=
  trimEnd (trimStart s)

/-- Drops semicolons from the end. -/
def dropSemicolons (s : List Char) : List Char :=
  dropTailWhile (· == ';') s

/-- A text of blanks only. -/
def isAllBlank (s : List Char) : Bool :=
  s.all isBlank

/-- The pieces between the characters that satisfy `p`, empty pieces included: a text with `n` such
characters has `n + 1` pieces. -/
def splitAt (p : Char → Bool) : List Char → List (List Char)
  | [] => [[]]
  | c :: rest =>
    if p c then [] :: splitAt p rest
    else match splitAt p rest with
      | [] => [[c]]
      | piece :: pieces => (c :: piece) :: pieces

/-- The maximal runs of characters other than blanks. -/
def words (s : List Char) : List (List Char) :=
  (splitAt isBlank s).filter fun w => !w.isEmpty

/-- What follows `pre`, when the text starts with it. -/
def dropPrefix? : (pre s : List Char) → Option (List Char)
  | [], s => some s
  | _ :: _, [] => none
  | p :: ps, c :: cs => if p = c then dropPrefix? ps cs else none

/-- Whether a text starts with another. -/
def startsWith (s pre : List Char) : Bool :=
  (dropPrefix? pre s).isSome

/-- What precedes `suf`, when the text ends with it. -/
def dropSuffix? (suf s : List Char) : Option (List Char) :=
  (dropPrefix? suf.reverse s.reverse).map List.reverse

/-- The text before and after the first occurrence of `sep`. -/
def splitOnce (sep : List Char) : List Char → Option (List Char × List Char)
  | [] => (dropPrefix? sep []).map fun after => ([], after)
  | c :: rest =>
    match dropPrefix? sep (c :: rest) with
    | some after => some ([], after)
    | none => (splitOnce sep rest).map fun (before, after) => (c :: before, after)

/-- Whether a text occurs inside another. -/
def contains (s part : List Char) : Bool :=
  (splitOnce part s).isSome

/-- The text after the first occurrence of `sep`; empty when there is none. -/
def afterFirst (sep : List Char) : List Char → List Char
  | [] => []
  | c :: rest =>
    match dropPrefix? sep (c :: rest) with
    | some after => after
    | none => afterFirst sep rest

/-- What is left after a start of a text is not longer than the text. -/
theorem length_dropPrefix?_le {pre s after : List Char} (h : dropPrefix? pre s = some after) :
    after.length ≤ s.length := by
  fun_induction dropPrefix? pre s with
  | case1 s => cases h; exact Nat.le_refl _
  | case2 => cases h
  | case3 ps c cs ih => exact Nat.le_succ_of_le (ih h)
  | case4 => cases h

/-- The text after an occurrence is not longer than the text. -/
theorem length_afterFirst_le (sep s : List Char) : (afterFirst sep s).length ≤ s.length := by
  fun_induction afterFirst sep s with
  | case1 => exact Nat.le_refl _
  | case2 c rest after h => exact length_dropPrefix?_le h
  | case3 c rest h ih => exact Nat.le_succ_of_le ih

/-- Dropping blanks makes no text longer. -/
theorem length_trimStart_le (s : List Char) : (trimStart s).length ≤ s.length :=
  (List.dropWhile_suffix _).length_le

/-- The text before and after the last occurrence of the character `sep`. -/
def splitOnceLast (sep : Char) (s : List Char) : Option (List Char × List Char) :=
  (splitOnce [sep] s.reverse).map fun (after, before) => (before.reverse, after.reverse)

/-- The lines of a text: cut at each line feed, one carriage return before it dropped, and no empty
line after a final line feed. -/
def lines (s : List Char) : List (List Char) :=
  let pieces := splitAt (· == '\n') s
  let chop (l : List Char) : List Char := (dropSuffix? ['\r'] l).getD l
  match pieces.getLast? with
  | some [] => pieces.dropLast.map chop
  | some l => pieces.dropLast.map chop ++ [l]
  | none => []

/-- The texts one after another with `sep` between each two. -/
def joinWith (sep : List Char) : List (List Char) → List Char
  | [] => []
  | [s] => s
  | s :: t :: rest => s ++ sep ++ joinWith sep (t :: rest)

/-- The decimal digits of a natural number. -/
def decimal (n : Nat) : List Char :=
  Nat.toDigits 10 n

end Text
end SqlCells
