import SqlCells.Proofs.Text.Case
import SqlCells.Proofs.Text.Utf8
import SqlCells.Proofs.Text.Words
import SqlCells.Url.Basic

/-!
# Escapes read back

A text with escapes has only characters that stand for themselves, so escaping it again changes nothing.
The form encoding of a text has none of the characters that cut a query into parameters, and is undone, so
the parameters that are added to a query are read back behind those it had.
-/

namespace SqlCells
namespace Url

/-! ## Characters that are kept -/

/-- Whether a character is not escaped in a part with a set of characters to escape. -/
def IsKept (set : List Char) (c : Char) : Prop :=
  0x20 ≤ c.toNat ∧ c.toNat < 0x7F ∧ c ∉ set

instance (set : List Char) : DecidablePred (IsKept set) := fun c =>
  inferInstanceAs (Decidable (0x20 ≤ c.toNat ∧ c.toNat < 0x7F ∧ c ∉ set))

/-- Whether escapes themselves are kept. -/
def KeepsEscapes (set : List Char) : Prop :=
  ∀ c ∈ "%0123456789ABCDEF".toList, IsKept set c

instance : DecidablePred KeepsEscapes := fun set =>
  inferInstanceAs (Decidable (∀ c ∈ "%0123456789ABCDEF".toList, IsKept set c))

section Kept

variable {set : List Char} {s : List Char} {c : Char}

theorem IsKept.ascii (hc : IsKept set c) : c.toNat < 0x80 :=
  hc.2.1.trans (by decide)

/-- Where blanks are escaped, what is kept is above them. -/
theorem IsKept.printable (hblank : ' ' ∈ set) (hc : IsKept set c) : 0x20 < c.toNat := by
  refine Nat.lt_of_le_of_ne hc.1 fun heq => hc.2.2 ?_
  have hblankEq : c = ' ' := Char.toNat_inj.1 heq.symm
  rwa [hblankEq]

theorem IsKept.mono {more : List Char} (hset : ∀ c ∈ more, c ∈ set) (hc : IsKept set c) : IsKept more c :=
  ⟨hc.1, hc.2.1, fun hmem => hc.2.2 (hset c hmem)⟩

theorem escape_of_kept (hs : ∀ c ∈ s, IsKept set c) : escape set s = s := by
  unfold escape
  induction s with
  | nil => rfl
  | cons c s ih =>
    obtain ⟨⟨hlow, hhigh, hset⟩, hs⟩ := List.forall_mem_cons.1 hs
    have hkept : ¬ (c.toNat < 0x20 ∨ 0x7F ≤ c.toNat ∨ set.contains c = true) := by
      simp only [List.contains_eq_mem, decide_eq_true_eq, not_or, not_lt, not_le]
      exact ⟨hlow, hhigh, hset⟩
    rw [List.flatMap_cons, if_neg hkept, ih hs]
    rfl

theorem mem_of_mem_percentByte {b : UInt8} (hc : c ∈ percentByte b) :
    c ∈ "%0123456789ABCDEF".toList := by
  have hdigit : ∀ n < 16, Text.upperHexDigit n ∈ "%0123456789ABCDEF".toList := by decide
  have hb := b.toNat_lt
  simp only [percentByte, List.mem_cons, List.not_mem_nil, or_false] at hc
  rcases hc with rfl | rfl | rfl
  · decide
  · exact hdigit _ (by omega)
  · exact hdigit _ (by omega)

theorem isKept_of_mem_percentChar (hset : KeepsEscapes set) {e : Char} (hc : c ∈ percentChar e) :
    IsKept set c := by
  obtain ⟨b, -, hb⟩ := List.mem_flatMap.1 hc
  exact hset c (mem_of_mem_percentByte hb)

theorem isKept_of_mem_escape (hset : KeepsEscapes set) (hc : c ∈ escape set s) : IsKept set c := by
  obtain ⟨e, -, he⟩ := List.mem_flatMap.1 hc
  split at he
  · exact isKept_of_mem_percentChar hset he
  · next hkept =>
    rw [List.mem_singleton] at he
    simp only [List.contains_eq_mem, decide_eq_true_eq, not_or, not_lt, not_le] at hkept
    rw [he]
    exact hkept

/-- What escapes do not bring in was there before. -/
theorem mem_of_mem_escape (hc : c ∈ escape set s) : c ∈ s ∨ c ∈ "%0123456789ABCDEF".toList := by
  obtain ⟨e, hmem, he⟩ := List.mem_flatMap.1 hc
  split at he
  · obtain ⟨b, -, hb⟩ := List.mem_flatMap.1 he
    exact Or.inr (mem_of_mem_percentByte hb)
  · exact Or.inl (List.mem_singleton.1 he ▸ hmem)

theorem escape_eq_nil_iff : escape set s = [] ↔ s = [] := by
  refine ⟨fun h => ?_, fun h => by rw [h]; rfl⟩
  cases s with
  | nil => rfl
  | cons c s =>
    obtain ⟨b, bytes, hbytes, -⟩ := Utf8.head_of_encode c []
    have hfirst := (List.append_eq_nil_iff.1 h).1
    dsimp only at hfirst
    split at hfirst
    · simp [percentChar, hbytes, percentByte] at hfirst
    · cases hfirst

end Kept

/-! ## The form encoding -/

/-- Whether a character may stand in a form-encoded text. -/
def IsFormChar (c : Char) : Prop :=
  isFormPlain c = true ∨ c = '+' ∨ c ∈ "%0123456789ABCDEF".toList

theorem isFormChar_of_mem_formEncode {s : List Char} {c : Char} (hc : c ∈ formEncode s) : IsFormChar c := by
  obtain ⟨e, -, he⟩ := List.mem_flatMap.1 hc
  split at he
  · exact Or.inr (Or.inl (List.mem_singleton.1 he))
  · split at he
    · next hplain => exact Or.inl (List.mem_singleton.1 he ▸ hplain)
    · obtain ⟨b, -, hb⟩ := List.mem_flatMap.1 he
      exact Or.inr (Or.inr (mem_of_mem_percentByte hb))

theorem toNat_of_isFormPlain {c : Char} (hc : isFormPlain c = true) : c.toNat < 0x80 := by
  simp only [isFormPlain, Bool.or_eq_true, beq_iff_eq] at hc
  rcases hc with (((halphanum | rfl) | rfl) | rfl) | rfl
  · exact Text.toNat_of_isAlphanum halphanum
  all_goals decide

theorem IsFormChar.isKept {c : Char} (hc : IsFormChar c) :
    IsKept specialQuerySet c ∧ c ≠ '&' ∧ c ≠ '=' := by
  rcases hc with hplain | rfl | hmem
  · have hascii := toNat_of_isFormPlain hplain
    revert hplain
    refine Text.ascii_induction (motive := fun c => isFormPlain c = true →
      IsKept specialQuerySet c ∧ c ≠ '&' ∧ c ≠ '=') ?_ hascii
    decide +kernel
  · decide
  · revert c
    decide

/-! ### Bytes -/

theorem percentDecode_nil : percentDecode [] = [] := by
  rw [percentDecode]

theorem percentDecode_cons {b : UInt8} (hb : b ≠ 0x25) (rest : List UInt8) :
    percentDecode (b :: rest) = b :: percentDecode rest := by
  rw [percentDecode]
  rintro a b rest rfl
  exact absurd rfl hb

/-- An escape is undone. -/
theorem percentDecode_percentByte (b : UInt8) (rest : List UInt8) :
    percentDecode (Utf8.encode (percentByte b) ++ rest) = b :: percentDecode rest := by
  have hdigit : ∀ n < 16, (Text.upperHexDigit n).toNat < 0x80 ∧
      Text.hexValue? (Char.ofNat (UInt8.ofNat (Text.upperHexDigit n).toNat).toNat) = some n := by
    decide
  have hb := b.toNat_lt
  obtain ⟨hhighAscii, hhigh⟩ := hdigit (b.toNat / 16) (by omega)
  obtain ⟨hlowAscii, hlow⟩ := hdigit (b.toNat % 16) (by omega)
  have hbyte : UInt8.ofNat (b.toNat / 16 * 16 + b.toNat % 16) = b := by
    rw [Nat.div_add_mod', UInt8.ofNat_toNat]
  have hbytes : Utf8.encode (percentByte b) = [0x25, UInt8.ofNat (Text.upperHexDigit (b.toNat / 16)).toNat,
      UInt8.ofNat (Text.upperHexDigit (b.toNat % 16)).toNat] := by
    simp only [percentByte, Utf8.encode_cons, Utf8.encode_nil, Utf8.encodeChar_of_ascii hhighAscii,
      Utf8.encodeChar_of_ascii hlowAscii]
    rfl
  rw [hbytes, List.cons_append, List.cons_append, List.cons_append, List.nil_append, percentDecode, hhigh,
    hlow]
  dsimp only
  rw [hbyte]

/-- The escapes of a character are undone. -/
theorem percentDecode_percentChar (c : Char) (rest : List UInt8) :
    percentDecode (Utf8.encode (percentChar c) ++ rest) = String.utf8EncodeChar c ++ percentDecode rest := by
  unfold percentChar
  induction String.utf8EncodeChar c with
  | nil => rfl
  | cons b bytes ih =>
    rw [List.flatMap_cons, Utf8.encode_append, List.append_assoc, percentDecode_percentByte, ih]
    rfl

theorem percentDecode_ascii {c : Char} (hc : c.toNat < 0x80) (hpercent : c ≠ '%') (rest : List UInt8) :
    percentDecode (String.utf8EncodeChar c ++ rest) = String.utf8EncodeChar c ++ percentDecode rest := by
  rw [Utf8.encodeChar_of_ascii hc, List.singleton_append, List.singleton_append]
  refine percentDecode_cons (fun hb => hpercent ?_) rest
  have hcode := congrArg UInt8.toNat hb
  rw [Utf8.toNat_ofNat (by omega)] at hcode
  exact Char.toNat_inj.1 hcode

/-- Without escapes, ASCII characters stand for themselves. -/
theorem percentDecode_encode {s : List Char} (hs : ∀ c ∈ s, c.toNat < 0x80 ∧ c ≠ '%') :
    percentDecode (Utf8.encode s) = Utf8.encode s := by
  induction s with
  | nil => exact percentDecode_nil
  | cons c s ih =>
    obtain ⟨⟨hascii, hpercent⟩, hs⟩ := List.forall_mem_cons.1 hs
    rw [Utf8.encode_cons, percentDecode_ascii hascii hpercent, ih hs]

/-- The form encoding of a character is undone, whatever follows it. -/
theorem formDecodeBytes_encoded (c : Char) (rest : List Char) :
    formDecodeBytes ((if c = ' ' then ['+'] else if isFormPlain c then [c] else percentChar c) ++ rest) =
      String.utf8EncodeChar c ++ formDecodeBytes rest := by
  have hbytes : ∀ s, (∀ d ∈ s, d ≠ '+') → formDecodeBytes (s ++ rest) =
      percentDecode (Utf8.encode s ++ Utf8.encode (rest.map fun d => if d = '+' then ' ' else d)) := by
    intro s hs
    have hkept : s.map (fun d => if d = '+' then ' ' else d) = s := by
      rw [List.map_congr_left fun d hd => if_neg (hs d hd), List.map_id']
    unfold formDecodeBytes
    rw [List.map_append, hkept, ← Utf8.encode_append]
    rfl
  by_cases hblank : c = ' '
  · subst hblank
    exact percentDecode_ascii (c := ' ') (by decide) (by decide) _
  rw [if_neg hblank]
  split
  · next hplain =>
    have hplus : c ≠ '+' := by
      rintro rfl
      cases hplain
    have hpercent : c ≠ '%' := by
      rintro rfl
      cases hplain
    rw [hbytes [c] (by simpa using hplus), Utf8.encode_cons, Utf8.encode_nil, List.append_nil]
    exact percentDecode_ascii (toNat_of_isFormPlain hplain) hpercent _
  · have hplus : ∀ d ∈ percentChar c, d ≠ '+' := by
      rintro d hd rfl
      obtain ⟨b, -, hb⟩ := List.mem_flatMap.1 hd
      exact absurd (mem_of_mem_percentByte hb) (by decide)
    rw [hbytes _ hplus]
    exact percentDecode_percentChar c _

theorem formDecode_formEncode (s : List Char) : formDecode (formEncode s) = s := by
  have hbytes : formDecodeBytes (formEncode s) = Utf8.encode s := by
    induction s with
    | nil => exact percentDecode_nil
    | cons c s ih =>
      have hcons := formDecodeBytes_encoded c (formEncode s)
      rwa [ih] at hcons
  unfold formDecode
  rw [hbytes, Utf8.lossy_encode]

/-! ### Parameters -/

/-- An ampersand ends the parameters before it. -/
theorem formPairs_append (query rest : List Char) :
    formPairs (query ++ '&' :: rest) = formPairs query ++ formPairs rest := by
  unfold formPairs
  rw [Text.splitAt_append_self, List.filter_append, List.map_append]

theorem formPairs_joinWith (parts : List (List Char)) :
    formPairs (Text.joinWith ['&'] parts) = parts.flatMap formPairs := by
  induction parts with
  | nil => rfl
  | cons part parts ih =>
    by_cases hmore : parts = []
    · simp [hmore, Text.joinWith]
    · rw [Text.joinWith_cons _ _ hmore, List.append_assoc, List.singleton_append, formPairs_append, ih]
      rfl

/-- An encoded parameter is one parameter. -/
theorem formPairs_formPair (key value : List Char) :
    formPairs (formPair key value) = [(formEncode key, formEncode value)] := by
  have hplain : ∀ s : List Char, ∀ c ∈ formEncode s, c ≠ '&' ∧ c ≠ '=' := fun s c hc =>
    (isFormChar_of_mem_formEncode hc).isKept.2
  have hpiece : Text.splitAt (· == '&') (formPair key value) = [formPair key value] := by
    refine Text.splitAt_of_not_mem fun hc => ?_
    simp only [formPair, List.mem_append, List.mem_cons] at hc
    rcases hc with hc | hc | hc
    · exact (hplain key _ hc).1 rfl
    · cases hc
    · exact (hplain value _ hc).1 rfl
  have hcut : Text.splitOnce ['='] (formPair key value) = some (formEncode key, formEncode value) :=
    Text.splitOnce_singleton_eq_some_iff.2 ⟨rfl, fun hmem => (hplain key '=' hmem).2 rfl⟩
  have hne : (formPair key value).isEmpty = false := by simp [formPair]
  unfold formPairs
  rw [hpiece, List.filter_singleton, hne]
  simp [hcut]

theorem decodedPairs_formPair (pair : List Char × List Char) :
    decodedPairs (formPair pair.1 pair.2) = [pair] := by
  unfold decodedPairs
  rw [formPairs_formPair, List.map_singleton]
  dsimp only
  rw [formDecode_formEncode, formDecode_formEncode]

/-- The parameters of a URL's query. -/
def queryPairs (u : Url) : List (List Char × List Char) :=
  decodedPairs (u.query.getD [])

/-- Added parameters are read back behind those that were there. -/
theorem queryPairs_addPairs (u : Url) (pairs : List (List Char × List Char)) :
    (u.addPairs pairs).queryPairs = u.queryPairs ++ pairs := by
  have hjoin : ∀ parts : List (List Char), decodedPairs (Text.joinWith ['&'] parts) =
      parts.flatMap decodedPairs := by
    intro parts
    unfold decodedPairs
    rw [formPairs_joinWith, List.map_flatMap]
  have hadded : (pairs.map fun pair => formPair pair.1 pair.2).flatMap decodedPairs = pairs := by
    rw [List.flatMap_map]
    simp only [decodedPairs_formPair]
    exact List.flatMap_singleton' pairs
  unfold queryPairs addPairs
  dsimp only [Option.getD_some]
  rw [hjoin]
  cases u.query with
  | none => exact hadded
  | some query =>
    dsimp only [Option.getD_some]
    split
    · next hempty =>
      rw [List.isEmpty_iff.1 hempty]
      exact hadded
    · exact List.flatMap_cons.trans (congrArg (decodedPairs query ++ ·) hadded)

end Url
end SqlCells
