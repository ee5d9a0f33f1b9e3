import SqlCells.Text.Words

/-!
# Decimal texts of whole numbers

Reading signed and unsigned 64-bit numbers: an optional sign and at least one ASCII digit, nothing
else, and nothing out of range.
-/

namespace SqlCells
namespace Number

/-- The value of a nonempty list of ASCII digits. -/
def readDigits? (s : List Char) : Option Nat :=
  if s.isEmpty || !s.all Char.isDigit then none
  else some (s.foldl (fun n c => n * 10 + (c.toNat - '0'.toNat)) 0)

/-- Reads an unsigned number below `bound`, with an optional plus sign. -/
def readBelow? (bound : Nat) (s : List Char) : Option Nat :=
  let digits := match s with
    | '+' :: rest => rest
    | _ => s
  (readDigits? digits).filter fun n => decide (n < bound)

/-- An integer as a signed 64-bit number, if it is in range. -/
def int64? (i : Int) : Option Int64 :=
  if Int64.minValue.toInt ≤ i ∧ i ≤ Int64.maxValue.toInt then some (Int64.ofInt i) else none

/-- Reads a signed 64-bit number. -/
def readInt64? (s : List Char) : Option Int64 :=
  let signed? : Option Int := match s with
    | '-' :: rest => (readDigits? rest).map fun n => -(n : Int)
    | '+' :: rest => (readDigits? rest).map fun n => (n : Int)
    | _ => (readDigits? s).map fun n => (n : Int)
  signed?.bind int64?

/-- The decimal text of an integer. -/
def integer (i : Int) : List Char :=
  if i < 0 then '-' :: Text.decimal i.natAbs else Text.decimal i.natAbs

end Number
end SqlCells
