import SqlCells.Url.Escape
import SqlCells.Text.Case

/-!
# Hosts of URLs

Domains, opaque host texts and addresses.  Hosts of special schemes are domains in lower case, their
labels beyond ASCII in Punycode, or addresses; hosts of other schemes are kept as they are written,
escapes added.  Both may be addresses of the sixth version in brackets.
-/

namespace SqlCells
namespace Url

/-- Why a text is not a URL. -/
inductive Flaw where
  | emptyHost
  | badDomain
  | badPort
  | badAddress4
  | badAddress6
  | badHostCharacter
  | noScheme
  deriving DecidableEq, Repr

/-- The wording of a flaw. -/
def Flaw.message : Flaw → String
  | .emptyHost => "empty host"
  | .badDomain => "invalid international domain name"
  | .badPort => "invalid port number"
  | .badAddress4 => "invalid IPv4 address"
  | .badAddress6 => "invalid IPv6 address"
  | .badHostCharacter => "invalid domain character"
  | .noScheme => "relative URL without a base"

/-- A host, if there is one. -/
inductive Host where
  | none
  /-- A name, as it is written in the URL. -/
  | name (text : List Char)
  | address4 (n : Nat)
  /-- The eight groups of the address. -/
  | address6 (groups : List Nat)
  deriving DecidableEq, Repr

/-! ## Addresses of the fourth version -/

/-- The number that a part of an address is: decimal, octal after a zero, hexadecimal after `0x`;
`none` when it is not a number. -/
def addressPart? (s : List Char) : Option Nat :=
  let (base, digits) : Nat × List Char := match s with
    | '0' :: 'x' :: rest => (16, rest)
    | '0' :: 'X' :: rest => (16, rest)
    | '0' :: c :: rest => (8, c :: rest)
    | _ => (10, s)
  if s.isEmpty then none
  else digits.foldlM (fun n c => do
    let d ← Text.hexValue? c
    if d < base then some (n * base + d) else none) 0

/-- The parts of a host between points, a single empty last part dropped. -/
def addressParts (s : List Char) : List (List Char) :=
  let parts := Text.splitAt (· == '.') s
  match parts.getLast? with
  | some [] => if 1 < parts.length then parts.dropLast else parts
  | _ => parts

/-- Whether the last part of a domain is a number, so that the domain has to be an address. -/
def endsInNumber (s : List Char) : Bool :=
  match (addressParts s).getLast? with
  | none => false
  | some final => (!final.isEmpty && final.all Char.isDigit) ||
      ((addressPart? final).isSome &&
        (Text.startsWith final ['0', 'x'] || Text.startsWith final ['0', 'X']))

/-- Reads an address of up to four parts, the last of which fills the bytes that are left. -/
def address4? (s : List Char) : Option Nat := do
  let numbers ← (addressParts s).mapM addressPart?
  let final ← numbers.getLast?
  let before := numbers.dropLast
  if 4 < numbers.length then none
  else if before.any fun n => decide (255 < n) then none
  else if Nat.pow 256 (5 - numbers.length) ≤ final then none
  else some (final + (before.mapIdx fun i n => n * Nat.pow 256 (3 - i)).foldl (· + ·) 0)

/-- An address as four decimal numbers. -/
def address4Text (n : Nat) : List Char :=
  Text.joinWith ['.'] ([3, 2, 1, 0].map fun i => Text.decimal (n / Nat.pow 256 i % 256))

/-! ## Addresses of the sixth version -/

/-- Four decimal numbers at the end of an address, as two groups. A number has up to three digits
and no leading zero. -/
def embedded4? (s : List Char) : Option (List Nat) := do
  let parts := Text.splitAt (· == '.') s
  let byte? (p : List Char) : Option Nat :=
    if p.isEmpty ∨ 3 < p.length ∨ (p.head? = some '0' ∧ 1 < p.length) ∨ !p.all Char.isDigit then
      none
    else
      let n := p.foldl (fun n c => n * 10 + (c.toNat - '0'.toNat)) 0
      if n ≤ 255 then some n else none
  let numbers ← parts.mapM byte?
  match numbers with
  | [a, b, c, d] => some [a * 256 + b, c * 256 + d]
  | _ => none

/-- The groups between colons; the last piece may be an embedded address. -/
def groups? : List (List Char) → Option (List Nat)
  | [] => some []
  | [p] => if p.contains '.' then embedded4? p else group? p |>.map fun n => [n]
  | p :: rest => do return (← group? p) :: (← groups? rest)
where
  /-- One to four hexadecimal digits. -/
  group? (p : List Char) : Option Nat :=
    if p.isEmpty ∨ 4 < p.length then none
    else p.foldlM (fun n c => (Text.hexValue? c).map fun d => n * 16 + d) 0

/-- Reads the text between the brackets; two colons stand for at least one group of zero. -/
def address6? (s : List Char) : Option (List Nat) :=
  let side (t : List Char) : Option (List Nat) :=
    if t.isEmpty then some [] else groups? (Text.splitAt (· == ':') t)
  match Text.splitOnce [':', ':'] s with
  | some (before, after) => do
    if before.contains '.' then none
    else
      let a ← side before
      let b ← side after
      if a.length + b.length ≤ 7 then
        some (a ++ List.replicate (8 - a.length - b.length) 0 ++ b)
      else none
  | none => do
    let gs ← side s
    if gs.length = 8 then some gs else none

/-- The length of the run of zeros that a list starts with. -/
def zeroRun (gs : List Nat) : Nat :=
  (gs.takeWhile (· == 0)).length

/-- The start and length of the first longest run of at least two zeros. -/
def longestZeros (gs : List Nat) : Option (Nat × Nat) :=
  (List.range gs.length).foldl (fun best i =>
    let n := zeroRun (gs.drop i)
    let limit := match best with
      | some (_, m) => m
      | none => 1
    if limit < n then some (i, n) else best) none

/-- An address in brackets, its first longest run of zeros left out. -/
def address6Text (gs : List Nat) : List Char :=
  let join (xs : List Nat) := Text.joinWith [':'] (xs.map (Nat.toDigits 16))
  '[' :: (match longestZeros gs with
    | some (i, n) => join (gs.take i) ++ [':', ':'] ++ join (gs.drop (i + n))
    | none => join gs) ++ [']']

/-! ## Domains -/

/-- Adapts the bias of the generalized variable-length numbers. -/
def adaptBias (delta points : Nat) (first : Bool) : Nat :=
  let delta := if first then delta / 700 else delta / 2
  let delta := delta + delta / points
  let rec reduce (fuel delta k : Nat) : Nat :=
    match fuel with
    | 0 => k + 36 * delta / (delta + 38)
    | fuel + 1 => if 455 < delta then reduce fuel (delta / 35) (k + 36)
      else k + 36 * delta / (delta + 38)
  reduce (Nat.log2 delta + 1) delta 0

/-- The digit of a number below 36: letters first. -/
def punycodeDigit (d : Nat) : Char :=
  if d < 26 then Char.ofNat ('a'.toNat + d) else Char.ofNat ('0'.toNat + (d - 26))

/-- The digits of one generalized variable-length number. -/
def variableDigits (fuel q k bias : Nat) : List Char :=
  match fuel with
  | 0 => []
  | fuel + 1 =>
    let t := if k ≤ bias then 1 else if bias + 26 ≤ k then 26 else k - bias
    if q < t then [punycodeDigit q]
    else
      punycodeDigit (t + (q - t) % (36 - t)) :: variableDigits fuel ((q - t) / (36 - t)) (k + 36) bias

/-- The state of the encoder: digits written, the count of points handled, the running difference and
the bias. -/
structure Punycode where
  out : List Char
  handled : Nat
  delta : Nat
  bias : Nat

/-- Encodes all occurrences of the code point `m`, those below it being handled. -/
def Punycode.step (basic m : Nat) (st : Punycode) (input : List Char) : Punycode :=
  input.foldl (fun st c =>
    if c.toNat < m then { st with delta := st.delta + 1 }
    else if c.toNat = m then
      { out := st.out ++ variableDigits (st.delta + 2) st.delta 36 st.bias
        bias := adaptBias st.delta (st.handled + 1) (st.handled == basic)
        delta := 0
        handled := st.handled + 1 }
    else st) st

/-- A label in Punycode. -/
def punycode (label : List Char) : List Char :=
  let ascii := label.filter fun c => decide (c.toNat < 0x80)
  let points := ((label.filter fun c => decide (0x80 ≤ c.toNat)).map Char.toNat).mergeSort.eraseDups
  let start : Punycode :=
    ⟨ascii ++ (if ascii.isEmpty then [] else ['-']), ascii.length, 0, 72⟩
  let (st, _) := points.foldl (fun (st, n) m =>
    let st := { st with delta := st.delta + (m - n) * (st.handled + 1) }
    let st := st.step ascii.length m label
    ({ st with delta := st.delta + 1 }, m + 1)) (start, 0x80)
  st.out

/-- A label of a domain in ASCII. -/
def asciiLabel (label : List Char) : List Char :=
  if label.all fun c => decide (c.toNat < 0x80) then label
  else ['x', 'n', '-', '-'] ++ punycode label

/-- A character that no domain may hold. -/
def isForbiddenInDomain (c : Char) : Bool :=
  decide (c.toNat ≤ 0x20) || c.toNat == 0x7F || "#%/:<>?@[\\]^|".toList.contains c

/-- Reads the host of a special scheme. -/
def specialHost (s : List Char) : Except Flaw Host :=
  match s with
  | '[' :: rest =>
    match Text.dropSuffix? [']'] rest with
    | some inside =>
      match address6? inside with
      | some gs => .ok (.address6 gs)
      | none => .error .badAddress6
    | none => .error .badAddress6
  | _ =>
    match String.fromUTF8? ⟨(percentDecode (s.flatMap String.utf8EncodeChar)).toArray⟩ with
    | none => .error .badDomain
    | some decoded =>
      let domain := Text.joinWith ['.'] ((Text.splitAt (· == '.') (Text.lower decoded.toList)).map asciiLabel)
      if domain.any isForbiddenInDomain then .error .badDomain
      else if domain.isEmpty then .error .emptyHost
      else if endsInNumber domain then
        match address4? domain with
        | some n => .ok (.address4 n)
        | none => .error .badAddress4
      else .ok (.name domain)

/-- A character that no opaque host may hold. -/
def isForbiddenInHost (c : Char) : Bool :=
  c.toNat == 0 || "\t\n\r #/:<>?@[\\]^|".toList.contains c

/-- Reads the host of a scheme that is not special. -/
def opaqueHost (s : List Char) : Except Flaw Host :=
  match s with
  | [] => .ok .none
  | '[' :: rest =>
    match Text.dropSuffix? [']'] rest with
    | some inside =>
      match address6? inside with
      | some gs => .ok (.address6 gs)
      | none => .error .badAddress6
    | none => .error .badAddress6
  | _ =>
    if s.any isForbiddenInHost then .error .badHostCharacter
    else .ok (.name (escape [] s))

/-- A host as it is written in a URL; `none` when there is none. -/
def Host.text? : Host → Option (List Char)
  | .none => Option.none
  | .name text => some text
  | .address4 n => some (address4Text n)
  | .address6 gs => some (address6Text gs)

end Url
end SqlCells
