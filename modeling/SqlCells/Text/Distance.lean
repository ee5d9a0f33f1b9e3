/-!
# Edit distance and the closest match

`distance` is the least number of insertions, deletions and replacements of single characters that
turn one text into another; `closest` picks the candidate nearest to a text in proportion to length.
-/

namespace SqlCells
namespace Text

/-- The next row of the distance table: `above` is the row of the text read so far against every
start of `t`, `left` the entry just written, `diagonal` the entry above it. -/
def distanceRow (c : Char) : (t : List Char) → (diagonal left : Nat) → (above : List Nat) → List Nat
  | d :: t, diagonal, left, up :: above =>
    let here := min (min (up + 1) (left + 1)) (if c = d then diagonal else diagonal + 1)
    here :: distanceRow c t up here above
  | _, _, _, _ => []

/-- The distances of a text, extended character by character, from every start of `t`. -/
def distanceRows (t : List Char) (row : List Nat) : List Char → List Nat
  | [] => row
  | c :: s =>
    match row with
    | [] => []
    | first :: above =>
      distanceRows t ((first + 1) :: distanceRow c t first (first + 1) above) s

/-- The edit distance between two texts. -/
def distance (s t : List Char) : Nat :=
  ((distanceRows t (List.range (t.length + 1)) s).getLast?).getD 0

/-- How alike two texts are: the length of the longer one less the distance, out of that length.
Two empty texts are alike in full. -/
structure Likeness where
  same : Nat
  outOf : Nat
  deriving DecidableEq, Repr

/-- The likeness of two texts. -/
def likeness (s t : List Char) : Likeness :=
  let longer := max s.length t.length
  if longer = 0 then ⟨1, 1⟩ else ⟨longer - distance s t, longer⟩

/-- Order of likenesses as fractions. -/
def Likeness.exceeds (a b : Likeness) : Bool :=
  decide (b.same * a.outOf < a.same * b.outOf)

/-- A likeness of at least three fifths counts as a match. -/
def Likeness.isMatch (a : Likeness) : Bool :=
  decide (3 * a.outOf ≤ 5 * a.same)

/-- The first of the candidates that match a text best, if any matches. -/
def closest (s : List Char) (candidates : List (List Char)) : Option (List Char) :=
  let step (best : Option (Likeness × List Char)) (t : List Char) :=
    let l := likeness s t
    match best with
    | none => if l.isMatch then some (l, t) else none
    | some (b, _) => if l.isMatch && l.exceeds b then some (l, t) else best
  (candidates.foldl step none).map Prod.snd

end Text
end SqlCells
