/-!
# UTF-8

A character is written as one to four bytes.  Bytes are read back character by character: the first
byte of a character tells how many more belong to it and in which ranges they lie.  Where reading
stops, either no character starts, or the bytes end inside one.
-/

namespace SqlCells
namespace Utf8

/-- The bytes of a text. -/
def encode (s : List Char) : List UInt8 :=
  s.flatMap String.utf8EncodeChar

/-- What bytes start with. -/
inductive Head where
  /-- A character, and the bytes behind it. -/
  | char (c : Char) (rest : List UInt8)
  /-- A part of a character that ends with the bytes. -/
  | cut
  /-- Bytes that no character starts with, so many of them. -/
  | invalid (length : Nat)
  deriving DecidableEq, Repr

/-- The range of the bytes behind the first two of a character. -/
def tail : Nat × Nat :=
  (0x80, 0xBF)

/-- The bits that the first byte of a character holds, and the ranges of the bytes that follow it.
The second byte is bounded so that no character is written in more bytes than it needs, none is a
surrogate, and none is beyond the last code point. -/
def lead? (b : Nat) : Option (Nat × List (Nat × Nat)) :=
  if b < 0x80 then some (b, [])
  else if b < 0xC2 then none
  else if b < 0xE0 then some (b - 0xC0, [tail])
  else if b = 0xE0 then some (0, [(0xA0, 0xBF), tail])
  else if b = 0xED then some (0xD, [(0x80, 0x9F), tail])
  else if b < 0xF0 then some (b - 0xE0, [tail, tail])
  else if b = 0xF0 then some (0, [(0x90, 0xBF), tail, tail])
  else if b < 0xF4 then some (b - 0xF0, [tail, tail, tail])
  else if b = 0xF4 then some (4, [(0x80, 0x8F), tail, tail])
  else none

/-- Reads the bytes of a character that are still to come, `code` being the value of those before and
`count` their number. -/
def follow (code count : Nat) : List (Nat × Nat) → List UInt8 → Head
  | [], rest => .char (Char.ofNat code) rest
  | _ :: _, [] => .cut
  | (low, high) :: ranges, b :: rest =>
    if low ≤ b.toNat ∧ b.toNat ≤ high then
      follow (code * 64 + (b.toNat - 0x80)) (count + 1) ranges rest
    else .invalid count

/-- What the bytes from `b` on start with. -/
def head (b : UInt8) (rest : List UInt8) : Head :=
  match lead? b.toNat with
  | some (code, ranges) => follow code 1 ranges rest
  | none => .invalid 1

/-- What follows a character is not longer than what follows its first byte. -/
theorem length_le_of_follow {code count : Nat} {ranges : List (Nat × Nat)} {bytes rest : List UInt8}
    {c : Char} (h : follow code count ranges bytes = .char c rest) : rest.length ≤ bytes.length := by
  fun_induction follow code count ranges bytes with
  | case1 => cases h; exact Nat.le_refl _
  | case2 => cases h
  | case3 _ _ _ _ _ _ _ _ ih => exact Nat.le_succ_of_le (ih h)
  | case4 => cases h

/-- What follows a character is not longer than what follows its first byte. -/
theorem length_le_of_head {b : UInt8} {bytes rest : List UInt8} {c : Char}
    (h : head b bytes = .char c rest) : rest.length ≤ bytes.length := by
  unfold head at h
  split at h
  · exact length_le_of_follow h
  · cases h

/-- How far bytes are read: the text up to there, and the bytes from there on. -/
structure Reading where
  text : List Char
  rest : List UInt8
  /-- The number of bytes that no character starts with, when they are what stops the reading. -/
  invalid : Option Nat
  deriving DecidableEq, Repr

/-- Reads the characters of bytes. -/
def read (bytes : List UInt8) : Reading :=
  match bytes with
  | [] => ⟨[], [], none⟩
  | b :: rest =>
    match _h : head b rest with
    | .char c rest =>
      let more := read rest
      { more with text := c :: more.text }
    | .cut => ⟨[], b :: rest, none⟩
    | .invalid length => ⟨[], b :: rest, some length⟩
termination_by bytes.length
decreasing_by exact Nat.lt_succ_of_le (length_le_of_head _h)

/-- Why bytes are no text: how many bytes are, and how many of those behind start no character;
`none` when the bytes end inside one. -/
structure Flaw where
  upTo : Nat
  length : Option Nat
  deriving DecidableEq, Repr

/-- The wording of a flaw. -/
def Flaw.message (f : Flaw) : String :=
  match f.length with
  | some n =>
    "invalid utf-8 sequence of " ++ toString n ++ " bytes from index " ++ toString f.upTo
  | none => "incomplete utf-8 byte sequence from index " ++ toString f.upTo

/-- The flaw that stops a reading of some bytes. -/
def Reading.flaw (r : Reading) (bytes : List UInt8) : Flaw :=
  ⟨bytes.length - r.rest.length, r.invalid⟩

/-- The text of bytes, all of which have to be characters. -/
def decode (bytes : List UInt8) : Except Flaw (List Char) :=
  let r := read bytes
  if r.rest.isEmpty then .ok r.text else .error (r.flaw bytes)

/-- The character that stands for bytes that are no text. -/
def replacement : Char :=
  '\uFFFD'

/-- The text of bytes, with a replacement for each part that belongs to no character. -/
def lossy (bytes : List UInt8) : List Char :=
  match bytes with
  | [] => []
  | b :: rest =>
    match _h : head b rest with
    | .char c rest => c :: lossy rest
    | .cut => [replacement]
    | .invalid length => replacement :: lossy (rest.drop (length - 1))
termination_by bytes.length
decreasing_by
  · exact Nat.lt_succ_of_le (length_le_of_head _h)
  · simp only [List.length_drop, List.length_cons]
    omega

end Utf8
end SqlCells
