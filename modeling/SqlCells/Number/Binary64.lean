/-!
# Double-precision numbers

A number of the 64-bit binary format, kept as its bits, so that every bit pattern survives a round
trip.  Its value is decoded into an exact magnitude `mantissa * 2 ^ exponent`; rounding from a
fraction and multiplying and dividing are done on exact natural numbers, to the nearest
representable number with ties to the even mantissa.
-/

namespace SqlCells

/-- A double-precision number, given by its bits. -/
structure Binary64 where
  bits : UInt64
  deriving DecidableEq, Repr, Inhabited

namespace Binary64

/-- What a bit pattern stands for, its sign aside. -/
inductive Magnitude where
  /-- The number `mantissa * 2 ^ exponent`. -/
  | finite (mantissa : Nat) (exponent : Int)
  | infinite
  | nan
  deriving DecidableEq, Repr

/-- Whether the sign bit is set. -/
def isNegative (x : Binary64) : Bool :=
  decide (Nat.pow 2 63 ≤ x.bits.toNat)

/-- The eleven bits of the biased exponent. -/
def biasedExponent (x : Binary64) : Nat :=
  x.bits.toNat / Nat.pow 2 52 % Nat.pow 2 11

/-- The fifty-two bits of the fraction. -/
def fraction (x : Binary64) : Nat :=
  x.bits.toNat % Nat.pow 2 52

/-- The magnitude that the bits stand for. -/
def magnitude (x : Binary64) : Magnitude :=
  if x.biasedExponent = 2047 then
    if x.fraction = 0 then .infinite else .nan
  else if x.biasedExponent = 0 then .finite x.fraction (-1074)
  else .finite (Nat.pow 2 52 + x.fraction) ((x.biasedExponent : Int) - 1075)

/-- Whether the bits stand for a number. -/
def isFinite (x : Binary64) : Bool :=
  decide (x.biasedExponent ≠ 2047)

/-- Whether the bits stand for zero, of either sign. -/
def isZero (x : Binary64) : Bool :=
  x.bits.toNat % Nat.pow 2 63 == 0

/-- Bits put together from sign, biased exponent and fraction. -/
def ofParts (negative : Bool) (biased fraction : Nat) : Binary64 :=
  ⟨UInt64.ofNat ((if negative then Nat.pow 2 63 else 0) + biased * Nat.pow 2 52 + fraction)⟩

/-- Positive infinity. -/
def infinity : Binary64 := ofParts false 2047 0

/-- The pattern used for "not a number" when a text names it. -/
def nan : Binary64 := ofParts false 2047 (Nat.pow 2 51)

/-- Positive zero. -/
def zero : Binary64 := ofParts false 0 0

/-- The number with its sign bit set as given. -/
def withSign (negative : Bool) (x : Binary64) : Binary64 :=
  ofParts negative x.biasedExponent x.fraction

/-- Equality of the numbers, not of the bits: the zeros are equal, and nothing equals a pattern that
is not a number. -/
def numEq (x y : Binary64) : Bool :=
  if x.magnitude = .nan || y.magnitude = .nan then false
  else x.bits == y.bits || (x.isZero && y.isZero)

/-- The quotient rounded to the nearest natural number, a half going to the even neighbour. -/
def roundQuotient (num den : Nat) : Nat :=
  let q := num / den
  let r := num % den
  if 2 * r < den then q
  else if den < 2 * r then q + 1
  else if q % 2 = 0 then q else q + 1

/-- The number of binary digits. -/
def bitLength (n : Nat) : Nat :=
  if n = 0 then 0 else Nat.log2 n + 1

/-- `num / den * 2 ^ shift` as a fraction of natural numbers. -/
def shifted (num den : Nat) (shift : Int) : Nat × Nat :=
  if 0 ≤ shift then (num * Nat.pow 2 shift.toNat, den) else (num, den * Nat.pow 2 (-shift).toNat)

/-- The representable number nearest to `num / den`, ties to the even mantissa; infinity when the
fraction is too large.  A zero denominator counts as one. -/
def ofRatio (num den : Nat) : Binary64 :=
  let den := max den 1
  if num = 0 then zero
  else
    -- The unit of the last place: fifty-three bits of quotient, but no finer than the format goes.
    let guess : Int := (bitLength num : Int) - (bitLength den : Int) - 52
    let exact := shifted num den (-guess)
    let unit : Int := if exact.1 / exact.2 < Nat.pow 2 52 then guess - 1 else guess
    let unit := max unit (-1074)
    let scaled := shifted num den (-unit)
    let m := roundQuotient scaled.1 scaled.2
    let (m, unit) := if m = Nat.pow 2 53 then (Nat.pow 2 52, unit + 1) else (m, unit)
    if m < Nat.pow 2 52 then ofParts false 0 m
    else
      let biased := unit + 1075
      if 2047 ≤ biased then infinity
      else ofParts false biased.toNat (m - Nat.pow 2 52)

/-- The magnitude of a finite number as a fraction; `none` for the others. -/
def ratio? (x : Binary64) : Option (Nat × Nat) :=
  match x.magnitude with
  | .finite m e => some (shifted m 1 e)
  | _ => none

/-- The rounded product of two nonnegative finite numbers. -/
def mulMagnitude (x y : Binary64) : Binary64 :=
  match x.ratio?, y.ratio? with
  | some (a, b), some (c, d) => ofRatio (a * c) (b * d)
  | _, _ => infinity

/-- The rounded quotient of two nonnegative finite numbers, the second not zero. -/
def divMagnitude (x y : Binary64) : Binary64 :=
  match x.ratio?, y.ratio? with
  | some (a, b), some (c, d) => ofRatio (a * d) (b * c)
  | _, _ => infinity

/-- The nearest number to `digits * 10 ^ exponent`.  Exponents far outside the range of the format
are decided without raising ten to them. -/
def ofDecimal (digits : Nat) (exponent : Int) : Binary64 :=
  let places : Int := (Nat.toDigits 10 digits).length
  if digits = 0 then zero
  else if 310 < places + exponent then infinity
  else if places + exponent < -330 then zero
  else if 0 ≤ exponent then ofRatio (digits * Nat.pow 10 exponent.toNat) 1
  else ofRatio digits (Nat.pow 10 (-exponent).toNat)

end Binary64
end SqlCells
