import SqlCells.Proofs.Sql.Items
import SqlCells.Run.Persist

/-!
# Literals read back

Each value is written as a literal that is read back as the value: strings without the second of two
quotes, bytes from pairs of hexadecimal digits, in either style, and numbers as the texts that they are
read from.
-/

namespace SqlCells
namespace Persist

open Sql

/-! ## Pairs of digits -/

/-- The bytes of pairs of hexadecimal digits. -/
def hexBytes? : List Char → Option (List UInt8)
  | [] => some []
  | [_] => none
  | a :: b :: rest => do
    let high ← Text.hexValue? a
    let low ← Text.hexValue? b
    let more ← hexBytes? rest
    return UInt8.ofNat (high * 16 + low) :: more

/-- Characters for the numbers below sixteen that are read as the numbers. -/
def IsHexDigits (digit : Nat → Char) : Prop :=
  ∀ n < 16, Text.hexValue? (digit n) = some n

theorem isHexDigits_hexDigit : IsHexDigits Text.hexDigit := by
  unfold IsHexDigits
  decide

theorem isHexDigits_upperHexDigit : IsHexDigits Text.upperHexDigit := by
  unfold IsHexDigits
  decide

section Digits

variable {digit : Nat → Char} (hdigit : IsHexDigits digit)

include hdigit

theorem hexBytes?_flatMap (b : List UInt8) :
    hexBytes? (b.flatMap fun x => [digit (x.toNat / 16), digit (x.toNat % 16)]) = some b := by
  induction b with
  | nil => rfl
  | cons x b ih =>
    have hhigh := hdigit (x.toNat / 16) (by have := x.toNat_lt; omega)
    have hlow := hdigit (x.toNat % 16) (Nat.mod_lt _ (by decide))
    have hbyte : UInt8.ofNat (x.toNat / 16 * 16 + x.toNat % 16) = x := by
      rw [Nat.div_add_mod', UInt8.ofNat_toNat]
    rw [List.flatMap_cons, List.cons_append, List.cons_append, List.nil_append, hexBytes?, hhigh, hlow, ih]
    exact congrArg (fun y => some (y :: b)) hbyte

theorem quote_not_mem_flatMap (b : List UInt8) :
    '\'' ∉ b.flatMap fun x => [digit (x.toNat / 16), digit (x.toNat % 16)] := by
  intro hmem
  obtain ⟨x, -, hx⟩ := List.mem_flatMap.1 hmem
  have hnone : Text.hexValue? '\'' = none := by decide
  simp only [List.mem_cons, List.not_mem_nil, or_false] at hx
  rcases hx with heq | heq
  · have hhigh := hdigit (x.toNat / 16) (by have := x.toNat_lt; omega)
    rw [← heq, hnone] at hhigh
    cases hhigh
  · have hlow := hdigit (x.toNat % 16) (Nat.mod_lt _ (by decide))
    rw [← heq, hnone] at hlow
    cases hlow

end Digits

/-! ## Literals -/

/-- What a literal in a tuple says: a number is the text of it. -/
inductive Literal where
  | null
  | bool (b : Bool)
  | number (text : List Char)
  | text (s : String)
  | bytes (b : List UInt8)
  deriving DecidableEq, Repr

/-- The literal that tokens spell. -/
def literal? : List Token → Option Literal
  | [.word "NULL" none] => some .null
  | [.word "TRUE" none] => some (.bool true)
  | [.word "FALSE" none] => some (.bool false)
  | [.number digits false] => some (.number digits.toList)
  | [.symbol "-", .number digits false] => some (.number ('-' :: digits.toList))
  | [.literal .plain s] => some (.text s)
  | [.literal .hexadecimal digits] => (hexBytes? digits.toList).map .bytes
  | [.literal .plain s, .symbol "::", .word "bytea" none] =>
    match s.toList with
    | '\\' :: 'x' :: digits => (hexBytes? digits).map .bytes
    | _ => none
  | _ => none

/-- Whether a literal stands for a value: the text of a number is read as the number. -/
inductive Literal.Denotes : Literal → Value → Prop
  | null : Denotes .null .null
  | bool (b : Bool) : Denotes (.bool b) (.bool b)
  | int {t : List Char} {i : Int64} (hread : Number.readInt64? t = some i) : Denotes (.number t) (.int i)
  | float {t : List Char} {x : Binary64} (hread : Binary64.read? t = some x) :
      Denotes (.number t) (.float x)
  | text (s : String) : Denotes (.text s) (.text s)
  | bytes (b : List UInt8) : Denotes (.bytes b) (.bytes b)

/-- A numeral with a minus sign or without is read as its own text. -/
theorem readBy_number {body : List Char} {e : Decimal} (hbody : Numeral body e) (negative : Bool) :
    ReadBy literal? (if negative then '-' :: body else body)
      (.number (if negative then '-' :: body else body)) := by
  cases negative with
  | false => exact ⟨_, isItem_numeral hbody, by simp [IsPlain], by simp [literal?]⟩
  | true => exact ⟨_, isItem_negative hbody, by simp [IsPlain], by simp [literal?]⟩

theorem readBy_position (n : Nat) : ReadBy literal? (Text.decimal n) (.number (Text.decimal n)) :=
  readBy_number (Number.numeral_decimal n) false

theorem readBy_integer (i : Int64) :
    ReadBy literal? (Number.integer i.toInt) (.number (Number.integer i.toInt)) := by
  have hread := readBy_number (Number.numeral_decimal i.toInt.natAbs) (decide (i.toInt < 0))
  simpa [Number.integer] using hread

theorem readBy_word {w : List Char} {l : Literal} (hw : isBareWord w = true)
    (hread : literal? [.word (String.ofList w) none] = some l) : ReadBy literal? w l :=
  ⟨_, isItem_word hw, by simp [IsPlain], hread⟩

theorem readBy_string (s : String) : ReadBy literal? (Value.sqlString s.toList) (.text s) := by
  refine ⟨_, isItem_string s.toList, by simp [IsPlain], ?_⟩
  rw [String.ofList_toList, literal?]

theorem readBy_hexadecimal (b : List UInt8) :
    ReadBy literal? ('X' :: '\'' :: b.flatMap Value.upperHexByte ++ ['\'']) (.bytes b) := by
  have hdigits : hexBytes? (b.flatMap Value.upperHexByte) = some b :=
    hexBytes?_flatMap isHexDigits_upperHexDigit b
  refine ⟨_, isItem_hexadecimal (quote_not_mem_flatMap isHexDigits_upperHexDigit b), by simp [IsPlain], ?_⟩
  rw [literal?, String.toList_ofList, hdigits]
  rfl

/-- A string in front of the sign that gives it a type. -/
theorem readBy_cast (b : List UInt8) :
    ReadBy literal? ("'\\x".toList ++ b.flatMap Text.hexByte ++ "'::bytea".toList) (.bytes b) := by
  have hdigits : hexBytes? (b.flatMap Text.hexByte) = some b := hexBytes?_flatMap isHexDigits_hexDigit b
  have hquote : '\'' ∉ '\\' :: 'x' :: b.flatMap Text.hexByte := by
    have hnone : '\'' ∉ b.flatMap Text.hexByte := quote_not_mem_flatMap isHexDigits_hexDigit b
    simp [hnone]
  refine ⟨[.literal .plain (String.ofList ('\\' :: 'x' :: b.flatMap Text.hexByte)), .symbol "::",
    .word "bytea" none], ?_, by simp [IsPlain], ?_⟩
  · intro rest us hstops hrest
    have hword : ReadAs ("bytea".toList ++ rest) (.word "bytea" none :: us) :=
      isItem_word (by decide) rest us hstops hrest
    have hcast : ReadAs (':' :: ([':'] ++ ("bytea".toList ++ rest))) (.symbol "::" :: _) :=
      .cons rfl rfl hword
    have hall := ReadAs.string ('\\' :: 'x' :: b.flatMap Text.hexByte) (by simp) hcast
    rw [doubled_of_not_mem hquote] at hall
    simpa using hall
  · simp [literal?, hdigits]

/-- The literal that a value is written as. -/
def Literal.ofValue : Value → Literal
  | .null => .null
  | .bool b => .bool b
  | .int i => .number (Number.integer i.toInt)
  | .float x => .number x.plainText
  | .text s => .text s
  | .bytes b => .bytes b

/-- Every value that is not an infinite number is read back as its literal. -/
theorem readBy_literal (d : Dialect) {v : Value} (hfinite : ∀ x, v = .float x → x.isFinite = true) :
    ReadBy literal? (literal d v) (.ofValue v) := by
  cases v with
  | null => exact readBy_word (w := "NULL".toList) (by decide) rfl
  | bool b =>
    cases b with
    | true => exact readBy_word (w := "TRUE".toList) (by decide) rfl
    | false => exact readBy_word (w := "FALSE".toList) (by decide) rfl
  | int i => exact readBy_integer i
  | float x =>
    obtain ⟨body, e, hbody, htext, -⟩ := Binary64.read?_plainText (hfinite x rfl)
    have hnumber := readBy_number hbody x.isNegative
    rwa [← htext] at hnumber
  | text s => exact readBy_string s
  | bytes b =>
    unfold literal
    dsimp only
    split
    · exact readBy_cast b
    · exact readBy_hexadecimal b

theorem denotes_ofValue {v : Value} (hfinite : ∀ x, v = .float x → x.isFinite = true) :
    (Literal.ofValue v).Denotes v := by
  cases v with
  | null => exact .null
  | bool b => exact .bool b
  | int i => exact .int (Number.readInt64?_integer i)
  | float x =>
    obtain ⟨-, -, -, -, hread⟩ := Binary64.read?_plainText (hfinite x rfl)
    exact .float hread
  | text s => exact .text s
  | bytes b => exact .bytes b

/-- Every value that is not an infinite number is written as a literal that stands for it. -/
theorem exists_literal (d : Dialect) {v : Value} (hfinite : ∀ x, v = .float x → x.isFinite = true) :
    ∃ l : Literal, ReadBy literal? (literal d v) l ∧ l.Denotes v :=
  ⟨.ofValue v, readBy_literal d hfinite, denotes_ofValue hfinite⟩

end Persist
end SqlCells
