import SqlCells.Number.Binary64
import SqlCells.Text.Words

/-!
# Decimal texts of numbers

The fewest digits that read back as a given double-precision number, the layouts in which they are
written, and the reading of decimal texts.
-/

namespace SqlCells

/-- Decimal digits and a power of ten: the number `digits * 10 ^ exponent`. -/
structure Decimal where
  digits : Nat
  exponent : Int
  deriving DecidableEq, Repr

namespace Decimal

/-- Moves trailing zeros of the digits into the exponent, at most `n` of them. -/
def stripZeros : Nat → Decimal → Decimal
  | 0, d => d
  | n + 1, d =>
    if d.digits ≠ 0 ∧ d.digits % 10 = 0 then stripZeros n ⟨d.digits / 10, d.exponent + 1⟩ else d

/-- The least `k` with `num / den < 10 ^ k`, for a positive fraction. -/
def ceilLog10 (num den : Nat) : Int :=
  if den ≤ num then ((Nat.toDigits 10 (num / den)).length : Int)
  else
    let places := (Nat.toDigits 10 (den / num)).length
    if num * Nat.pow 10 (places - 1) < den then -((places : Int) - 1) else 2 - (places : Int)

/-- `num / den * 10 ^ shift` as a fraction of natural numbers. -/
def scaled (num den : Nat) (shift : Int) : Nat × Nat :=
  if 0 ≤ shift then (num * Nat.pow 10 shift.toNat, den) else (num, den * Nat.pow 10 (-shift).toNat)

/-- An interval of fractions over one denominator around a value: the numbers that round to it. -/
structure Around where
  low : Nat
  value : Nat
  high : Nat
  den : Nat
  /-- Whether the ends belong to the interval. -/
  closed : Bool

/-- Whether `n * 10 ^ (-shift)` lies in the interval. -/
def Around.covers (i : Around) (shift : Int) (n : Nat) : Bool :=
  let lo := scaled i.low i.den shift
  let hi := scaled i.high i.den shift
  if i.closed then decide (lo.1 ≤ n * lo.2) && decide (n * hi.2 ≤ hi.1)
  else decide (lo.1 < n * lo.2) && decide (n * hi.2 < hi.1)

/-- The neighbour of the value on the grid of `count` digits that lies in the interval; of two, the
nearer one, and of two equally near the even one. -/
def Around.onGrid (i : Around) (top : Int) (count : Nat) : Option Decimal :=
  let shift := (count : Int) - top
  let v := scaled i.value i.den shift
  let below := v.1 / v.2
  let above := below + 1
  let rest := v.1 % v.2
  match i.covers shift below, i.covers shift above with
  | true, false => some ⟨below, -shift⟩
  | false, true => some ⟨above, -shift⟩
  | true, true =>
    if 2 * rest < v.2 ∨ (2 * rest = v.2 ∧ below % 2 = 0) then some ⟨below, -shift⟩
    else some ⟨above, -shift⟩
  | false, false => none

/-- The interval of numbers that round to `mantissa * 2 ^ exponent`. -/
def around (mantissa : Nat) (exponent : Int) : Around :=
  let unit := Binary64.shifted 1 4 exponent
  let isPower := mantissa == Nat.pow 2 52 && decide (-1074 < exponent)
  { low := (4 * mantissa - (if isPower then 1 else 2)) * unit.1
    value := 4 * mantissa * unit.1
    high := (4 * mantissa + 2) * unit.1
    den := unit.2
    closed := mantissa % 2 == 0 }

/-- The fewest digits that read back as `mantissa * 2 ^ exponent`, and of those the nearest. -/
def shortest (mantissa : Nat) (exponent : Int) : Decimal :=
  if mantissa = 0 then ⟨0, 0⟩
  else
    let i := around mantissa exponent
    let top := ceilLog10 i.value i.den
    match (List.range 17).findSome? fun n => i.onGrid top (n + 1) with
    | some d => stripZeros 20 d
    | none => ⟨mantissa, 0⟩

/-- Where the point stands: the number is `0.digits * 10 ^ point`. -/
def point (d : Decimal) : Int :=
  ((Nat.toDigits 10 d.digits).length : Int) + d.exponent

/-- Without an exponent part, the point only where a fraction follows. -/
def positional (d : Decimal) : List Char :=
  let ds := Nat.toDigits 10 d.digits
  if 0 ≤ d.exponent then ds ++ List.replicate d.exponent.toNat '0'
  else if 0 < d.point then ds.take d.point.toNat ++ '.' :: ds.drop d.point.toNat
  else '0' :: '.' :: List.replicate (-d.point).toNat '0' ++ ds

/-- Without an exponent part, always with a point and a digit after it. -/
def positionalWithPoint (d : Decimal) : List Char :=
  if 0 ≤ d.exponent then d.positional ++ ['.', '0'] else d.positional

/-- One digit before the point, then `e` and the exponent; a positive exponent gets the sign
`plus`. -/
def scientific (plus : List Char) (d : Decimal) : List Char :=
  let ds := Nat.toDigits 10 d.digits
  let mantissa := match ds with
    | [] => []
    | [c] => [c]
    | c :: rest => c :: '.' :: rest
  let e := d.point - 1
  mantissa ++ 'e' :: (if e < 0 then '-' :: Text.decimal e.natAbs else plus ++ Text.decimal e.natAbs)

end Decimal

namespace Binary64

/-- The sign, then the given layout of the digits; names for what is not a number. -/
def layout (digits : Decimal → List Char) (x : Binary64) : List Char :=
  let sign (s : List Char) := if x.isNegative then '-' :: s else s
  match x.magnitude with
  | .nan => ['N', 'a', 'N']
  | .infinite => sign ['i', 'n', 'f']
  | .finite m e => sign (digits (Decimal.shortest m e))

/-- The plain text of a number: never an exponent. -/
def plainText (x : Binary64) : List Char :=
  x.layout Decimal.positional

/-- The diagnostic text of a number: an exponent for magnitudes from `1e16` on and below `1e-4`,
otherwise at least one digit after the point. -/
def debugText (x : Binary64) : List Char :=
  x.layout fun d =>
    if d.digits ≠ 0 ∧ (16 < d.point ∨ d.point < -3) then d.scientific []
    else d.positionalWithPoint

/-- The text of a number in JSON: an exponent from `1e+16` on and below `1e-5`, otherwise at least
one digit after the point. -/
def jsonText (x : Binary64) : List Char :=
  x.layout fun d =>
    if d.digits ≠ 0 ∧ (16 < d.point ∨ d.point < -4) then d.scientific ['+']
    else d.positionalWithPoint

/-- The value of a list of decimal digits. -/
def digitsValue (ds : List Char) : Nat :=
  ds.foldl (fun n c => n * 10 + (c.toNat - '0'.toNat)) 0

/-- Reads an optional sign. -/
def takeSign : List Char → Bool × List Char
  | '-' :: rest => (true, rest)
  | '+' :: rest => (false, rest)
  | s => (false, s)

/-- Reads the part after `e` or `E`: an optional sign and at least one digit, to the end. -/
def readExponent? (s : List Char) : Option Int :=
  let (negative, ds) := takeSign s
  if ds.isEmpty || !ds.all Char.isDigit then none
  else
    let n : Int := digitsValue ds
    some (if negative then -n else n)

/-- Reads digits with at most one point, at least one digit, and an optional exponent, to the end. -/
def readDigits? (s : List Char) : Option Binary64 :=
  let whole := s.takeWhile Char.isDigit
  let rest := s.dropWhile Char.isDigit
  let (frac, rest) := match rest with
    | '.' :: rest => (rest.takeWhile Char.isDigit, rest.dropWhile Char.isDigit)
    | _ => ([], rest)
  if whole.isEmpty && frac.isEmpty then none
  else
    let exponent? := match rest with
      | [] => some 0
      | c :: rest => if c = 'e' ∨ c = 'E' then readExponent? rest else none
    exponent?.map fun e => ofDecimal (digitsValue (whole ++ frac)) (e - frac.length)

/-- Reads a number: an optional sign, then digits as above or `inf`, `infinity` or `nan` in any
case. -/
def read? (s : List Char) : Option Binary64 :=
  let (negative, body) := takeSign s
  let magnitude? :=
    match String.ofList (body.map Char.toLower) with
    | "inf" => some infinity
    | "infinity" => some infinity
    | "nan" => some nan
    | _ => readDigits? body
  magnitude?.map (withSign negative)

end Binary64
end SqlCells
