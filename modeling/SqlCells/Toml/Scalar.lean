import SqlCells.Toml.Value
import SqlCells.Number.Integer

/-!
# Numbers and moments of TOML

The values that are written as one run of letters, digits and signs: truth values, integers in four
bases, floating-point numbers, and dates and times.
-/

namespace SqlCells
namespace Toml

/-- The digits of a run in which underscores stand singly between digits; there has to be a digit. -/
def ungroup? (isDigit : Char → Bool) : List Char → Option (List Char)
  | [] => none
  | [c] => if isDigit c then some [c] else none
  | c :: '_' :: rest =>
    if isDigit c then (ungroup? isDigit rest).map (c :: ·) else none
  | c :: rest => if isDigit c then (ungroup? isDigit rest).map (c :: ·) else none

/-- A signed number in 64 bits. -/
def inRange? (i : Int) : Option Toml :=
  (Number.int64? i).map .int

/-- An unsigned integer in the base that its prefix names. -/
def prefixed? (base : Nat) (s : List Char) : Option Toml := do
  let isDigit (c : Char) : Bool := match Text.hexValue? c with
    | some d => decide (d < base)
    | none => false
  let digits ← ungroup? isDigit s
  inRange? (digits.foldl (fun n c => n * base + (Text.hexValue? c).getD 0) 0 : Nat)

/-- Whether a whole part may stand: zero, or digits that do not start with zero. -/
def isWholePart (digits : List Char) : Bool :=
  match digits with
  | ['0'] => true
  | '0' :: _ => false
  | _ => true

/-- The sign of a number and what follows it. -/
def takeSign : List Char → Bool × List Char
  | '-' :: rest => (true, rest)
  | '+' :: rest => (false, rest)
  | s => (false, s)

/-- A digit or the sign that groups digits. -/
def isGrouped (c : Char) : Bool :=
  c.isDigit || c == '_'

/-- The exponent of a number; zero when none is written. -/
def exponent? : List Char → Option Int
  | [] => some 0
  | c :: rest =>
    if c = 'e' ∨ c = 'E' then do
      let (negative, digits) := takeSign rest
      let n ← Number.readDigits? (← ungroup? Char.isDigit digits)
      return if negative then -n else n
    else none

/-- A number in base ten, with a fraction and an exponent or without. -/
def decimal? (s : List Char) : Option Toml := do
  let (negative, rest) := takeSign s
  let whole ← ungroup? Char.isDigit (rest.takeWhile isGrouped)
  if !isWholePart whole then failure
  match rest.dropWhile isGrouped with
  | [] =>
    let n ← Number.readDigits? whole
    inRange? (if negative then -n else n)
  | tail =>
    let (fraction, tail) ← match tail with
      | '.' :: tail =>
        (ungroup? Char.isDigit (tail.takeWhile isGrouped)).map fun f =>
          (f, tail.dropWhile isGrouped)
      | _ => some ([], tail)
    let power ← exponent? tail
    let n ← Number.readDigits? (whole ++ fraction)
    let x := Binary64.ofDecimal n (power - fraction.length)
    if x = Binary64.infinity then none else some (.float (x.withSign negative))

/-- A floating-point number that has a name. -/
def named? (s : List Char) : Option Toml :=
  let (negative, rest) := takeSign s
  if rest = "inf".toList then some (.float (Binary64.infinity.withSign negative))
  else if rest = "nan".toList then some (.float (Binary64.nan.withSign negative))
  else none

/-- The value of two digits. -/
def twoDigits? (a b : Char) : Option Nat :=
  Number.readDigits? [a, b]

/-- The number of days in a month. -/
def daysInMonth (year month : Nat) : Nat :=
  if month = 2 then
    if year % 4 = 0 ∧ (year % 100 ≠ 0 ∨ year % 400 = 0) then 29 else 28
  else if month = 4 ∨ month = 6 ∨ month = 9 ∨ month = 11 then 30
  else 31

/-- What follows a date at the start of a text. -/
def afterDate? : List Char → Option (List Char)
  | y₁ :: y₂ :: y₃ :: y₄ :: '-' :: m₁ :: m₂ :: '-' :: d₁ :: d₂ :: rest => do
    let year ← Number.readDigits? [y₁, y₂, y₃, y₄]
    let month ← twoDigits? m₁ m₂
    let day ← twoDigits? d₁ d₂
    if 1 ≤ month ∧ month ≤ 12 ∧ 1 ≤ day ∧ day ≤ daysInMonth year month then some rest else none
  | _ => none

/-- What follows a time at the start of a text. -/
def afterTime? : List Char → Option (List Char)
  | h₁ :: h₂ :: ':' :: m₁ :: m₂ :: ':' :: s₁ :: s₂ :: rest => do
    let hour ← twoDigits? h₁ h₂
    let minute ← twoDigits? m₁ m₂
    let second ← twoDigits? s₁ s₂
    if hour ≤ 23 ∧ minute ≤ 59 ∧ second ≤ 60 then
      match rest with
      | '.' :: tail =>
        if (tail.head?.map Char.isDigit).getD false then some (tail.dropWhile Char.isDigit)
        else none
      | _ => some rest
    else none
  | _ => none

/-- Whether a text is the offset of a time from universal time. -/
def isOffset : List Char → Bool
  | ['Z'] | ['z'] => true
  | sign :: h₁ :: h₂ :: ':' :: m₁ :: m₂ :: [] =>
    (sign == '+' || sign == '-')
      && (match twoDigits? h₁ h₂, twoDigits? m₁ m₂ with
          | some h, some m => decide (h ≤ 23 ∧ m ≤ 59)
          | _, _ => false)
  | _ => false

/-- Whether a text is a date, a time, or a date and a time. -/
def isMoment (s : List Char) : Bool :=
  match afterDate? s with
  | some [] => true
  | some (c :: rest) =>
    (c == 'T' || c == 't' || c == ' ')
      && (match afterTime? rest with
          | some [] => true
          | some offset => isOffset offset
          | none => false)
  | none => afterTime? s == some []

/-- The value that a run of characters writes. -/
def scalar? (s : List Char) : Option Toml :=
  match s with
  | ['t', 'r', 'u', 'e'] => some (.bool true)
  | ['f', 'a', 'l', 's', 'e'] => some (.bool false)
  | '0' :: 'x' :: digits => prefixed? 16 digits
  | '0' :: 'o' :: digits => prefixed? 8 digits
  | '0' :: 'b' :: digits => prefixed? 2 digits
  | _ => if isMoment s then some .moment else (named? s).or (decimal? s)

/-- A character that such a run may hold. -/
def isScalarChar (c : Char) : Bool :=
  c.isAlphanum || c == '_' || c == '+' || c == '-' || c == ':' || c == '.'

/-- The run at the start of a text and what follows it. A blank may stand between a date and a time. -/
def takeScalar (s : List Char) : List Char × List Char :=
  let run := s.takeWhile isScalarChar
  let rest := s.dropWhile isScalarChar
  match rest with
  | ' ' :: tail =>
    let time := tail.takeWhile isScalarChar
    if isMoment run && isMoment (run ++ ' ' :: time) && afterDate? run == some [] then
      (run ++ ' ' :: time, tail.dropWhile isScalarChar)
    else (run, rest)
  | _ => (run, rest)

end Toml
end SqlCells
