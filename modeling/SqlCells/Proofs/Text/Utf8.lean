import Mathlib.Data.List.Basic
import SqlCells.Text.Utf8

/-!
# Reading UTF-8 back

Bytes are read as a character exactly where its bytes stand.  So bytes are a text exactly if they are
the bytes of that text, and what stops a reading is behind the longest text that the bytes start with.
-/

namespace SqlCells
namespace Utf8

variable {b : UInt8} {bytes rest more : List UInt8} {c : Char} {s t : List Char}

/-! ## One character -/

theorem valid_toNat (c : Char) : c.toNat < 0xD800 ∨ (0xDFFF < c.toNat ∧ c.toNat < 0x110000) :=
  c.valid

/-- The bytes of a character, by its code point. -/
theorem encodeChar_eq (c : Char) :
    String.utf8EncodeChar c =
      if c.toNat ≤ 0x7F then [UInt8.ofNat c.toNat]
      else if c.toNat ≤ 0x7FF then
        [UInt8.ofNat (c.toNat / 64 % 32 + 0xC0), UInt8.ofNat (c.toNat % 64 + 0x80)]
      else if c.toNat ≤ 0xFFFF then
        [UInt8.ofNat (c.toNat / 4096 % 16 + 0xE0), UInt8.ofNat (c.toNat / 64 % 64 + 0x80),
          UInt8.ofNat (c.toNat % 64 + 0x80)]
      else
        [UInt8.ofNat (c.toNat / 262144 % 8 + 0xF0), UInt8.ofNat (c.toNat / 4096 % 64 + 0x80),
          UInt8.ofNat (c.toNat / 64 % 64 + 0x80), UInt8.ofNat (c.toNat % 64 + 0x80)] :=
  rfl

theorem toNat_ofNat {n : Nat} (hn : n < 256) : (UInt8.ofNat n).toNat = n :=
  UInt8.toNat_ofNat_of_lt' hn

/-- A byte in the range that is looked for. -/
theorem follow_cons {code count low high n : Nat} {ranges : List (Nat × Nat)} (hn : n < 64)
    (hrange : low ≤ n + 0x80 ∧ n + 0x80 ≤ high) (rest : List UInt8) :
    follow code count ((low, high) :: ranges) (UInt8.ofNat (n + 0x80) :: rest) =
      follow (code * 64 + n) (count + 1) ranges rest := by
  rw [follow, toNat_ofNat (by omega), if_pos hrange, Nat.add_sub_cancel]

theorem lead?_two {n : Nat} (hlow : 0x80 ≤ n) (hhigh : n ≤ 0x7FF) :
    lead? (n / 64 % 32 + 0xC0) = some (n / 64, [tail]) := by
  unfold lead?
  rw [if_neg (by omega), if_neg (by omega), if_pos (by omega), Nat.add_sub_cancel,
    Nat.mod_eq_of_lt (by omega)]

theorem lead?_three {n : Nat} (hlow : 0x800 ≤ n) (hhigh : n ≤ 0xFFFF)
    (hvalid : n < 0xD800 ∨ 0xDFFF < n) :
    ∃ low high, lead? (n / 4096 % 16 + 0xE0) = some (n / 4096, [(low, high), tail]) ∧
      low ≤ n / 64 % 64 + 0x80 ∧ n / 64 % 64 + 0x80 ≤ high := by
  have hcode : n / 4096 % 16 = n / 4096 := Nat.mod_eq_of_lt (by omega)
  rw [hcode]
  unfold lead?
  rw [if_neg (by omega), if_neg (by omega), if_neg (by omega)]
  by_cases hfirst : n / 4096 = 0
  · rw [hfirst]
    exact ⟨0xA0, 0xBF, rfl, by omega, by omega⟩
  · rw [if_neg (by omega)]
    by_cases hsurrogates : n / 4096 = 0xD
    · rw [hsurrogates]
      exact ⟨0x80, 0x9F, rfl, by omega, by omega⟩
    · rw [if_neg (by omega), if_pos (by omega), Nat.add_sub_cancel]
      exact ⟨0x80, 0xBF, rfl, by omega, by omega⟩

theorem lead?_four {n : Nat} (hlow : 0x10000 ≤ n) (hhigh : n < 0x110000) :
    ∃ low high, lead? (n / 262144 % 8 + 0xF0) = some (n / 262144, [(low, high), tail, tail]) ∧
      low ≤ n / 4096 % 64 + 0x80 ∧ n / 4096 % 64 + 0x80 ≤ high := by
  have hcode : n / 262144 % 8 = n / 262144 := Nat.mod_eq_of_lt (by omega)
  rw [hcode]
  unfold lead?
  rw [if_neg (by omega), if_neg (by omega), if_neg (by omega), if_neg (by omega), if_neg (by omega),
    if_neg (by omega)]
  by_cases hfirst : n / 262144 = 0
  · rw [hfirst]
    exact ⟨0x90, 0xBF, rfl, by omega, by omega⟩
  · rw [if_neg (by omega)]
    by_cases hlast : n / 262144 = 4
    · rw [hlast]
      exact ⟨0x80, 0x8F, rfl, by omega, by omega⟩
    · rw [if_pos (by omega), Nat.add_sub_cancel]
      exact ⟨0x80, 0xBF, rfl, by omega, by omega⟩

/-- The bytes of a character are read as that character. -/
theorem head_of_encode (c : Char) (rest : List UInt8) :
    ∃ b bytes, String.utf8EncodeChar c = b :: bytes ∧ head b (bytes ++ rest) = .char c rest := by
  have hvalid := valid_toNat c
  rw [encodeChar_eq]
  split
  · next hone =>
    refine ⟨_, _, rfl, ?_⟩
    have hlead : lead? c.toNat = some (c.toNat, []) := if_pos (by omega)
    rw [head, toNat_ofNat (by omega), hlead]
    exact congrArg (Head.char · rest) (Char.ofNat_toNat c)
  · split
    · next hone htwo =>
      refine ⟨_, _, rfl, ?_⟩
      have hcode : c.toNat / 64 * 64 + c.toNat % 64 = c.toNat := by omega
      rw [head, toNat_ofNat (by omega), lead?_two (by omega) htwo]
      dsimp only [tail, List.cons_append]
      rw [follow_cons (by omega) (by omega), hcode]
      exact congrArg (Head.char · rest) (Char.ofNat_toNat c)
    · split
      · next hone htwo hthree =>
        refine ⟨_, _, rfl, ?_⟩
        have hcode : (c.toNat / 4096 * 64 + c.toNat / 64 % 64) * 64 + c.toNat % 64 = c.toNat := by omega
        obtain ⟨low, high, hlead, hsecond⟩ := lead?_three (n := c.toNat) (by omega) hthree (by omega)
        rw [head, toNat_ofNat (by omega), hlead]
        dsimp only [tail, List.cons_append]
        rw [follow_cons (by omega) hsecond, follow_cons (by omega) (by omega), hcode]
        exact congrArg (Head.char · rest) (Char.ofNat_toNat c)
      · next hone htwo hthree =>
        refine ⟨_, _, rfl, ?_⟩
        have hcode : ((c.toNat / 262144 * 64 + c.toNat / 4096 % 64) * 64 + c.toNat / 64 % 64) * 64 +
            c.toNat % 64 = c.toNat := by omega
        obtain ⟨low, high, hlead, hsecond⟩ := lead?_four (n := c.toNat) (by omega) (by omega)
        rw [head, toNat_ofNat (by omega), hlead]
        dsimp only [tail, List.cons_append]
        rw [follow_cons (by omega) hsecond, follow_cons (by omega) (by omega),
          follow_cons (by omega) (by omega), hcode]
        exact congrArg (Head.char · rest) (Char.ofNat_toNat c)

/-- What a first byte can be: the bits that it holds are `code`. -/
inductive Lead (m code : Nat) : List (Nat × Nat) → Prop
  | one (hm : m = code) (hcode : code < 0x80) : Lead m code []
  | two (hm : m = code + 0xC0) (hcode : 2 ≤ code ∧ code < 0x20) : Lead m code [tail]
  | three {low high : Nat} (hm : m = code + 0xE0) (hcode : code < 0x10)
      (hrange : 0x80 ≤ low ∧ high ≤ 0xBF) (hshort : code = 0 → 0xA0 ≤ low)
      (hsurrogate : code = 0xD → high ≤ 0x9F) : Lead m code [(low, high), tail]
  | four {low high : Nat} (hm : m = code + 0xF0) (hcode : code ≤ 4)
      (hrange : 0x80 ≤ low ∧ high ≤ 0xBF) (hshort : code = 0 → 0x90 ≤ low)
      (hlast : code = 4 → high ≤ 0x8F) : Lead m code [(low, high), tail, tail]

theorem lead_of_lead? {m code : Nat} {ranges : List (Nat × Nat)}
    (h : lead? m = some (code, ranges)) : Lead m code ranges := by
  unfold lead? tail at h
  split at h
  · cases h
    exact .one rfl (by omega)
  split at h
  · cases h
  split at h
  · obtain ⟨rfl, rfl⟩ := Prod.mk.inj (Option.some.inj h)
    exact .two (by omega) (by omega)
  split at h
  · obtain ⟨rfl, rfl⟩ := Prod.mk.inj (Option.some.inj h)
    exact .three (by omega) (by omega) (by omega) (by omega) (by omega)
  split at h
  · obtain ⟨rfl, rfl⟩ := Prod.mk.inj (Option.some.inj h)
    exact .three (by omega) (by omega) (by omega) (by omega) (by omega)
  split at h
  · obtain ⟨rfl, rfl⟩ := Prod.mk.inj (Option.some.inj h)
    exact .three (by omega) (by omega) (by omega) (by omega) (by omega)
  split at h
  · obtain ⟨rfl, rfl⟩ := Prod.mk.inj (Option.some.inj h)
    exact .four (by omega) (by omega) (by omega) (by omega) (by omega)
  split at h
  · obtain ⟨rfl, rfl⟩ := Prod.mk.inj (Option.some.inj h)
    exact .four (by omega) (by omega) (by omega) (by omega) (by omega)
  split at h
  · obtain ⟨rfl, rfl⟩ := Prod.mk.inj (Option.some.inj h)
    exact .four (by omega) (by omega) (by omega) (by omega) (by omega)
  · cases h

theorem of_follow_cons {code count low high : Nat} {ranges : List (Nat × Nat)}
    (h : follow code count ((low, high) :: ranges) bytes = .char c rest) :
    ∃ b more, bytes = b :: more ∧ low ≤ b.toNat ∧ b.toNat ≤ high ∧
      follow (code * 64 + (b.toNat - 0x80)) (count + 1) ranges more = .char c rest := by
  cases bytes with
  | nil => cases h
  | cons b more =>
    rw [follow] at h
    split at h
    · next hrange => exact ⟨b, more, rfl, hrange.1, hrange.2, h⟩
    · cases h

theorem ofNat_eq {n : Nat} (h : n = b.toNat) : UInt8.ofNat n = b := by
  rw [h, UInt8.ofNat_toNat]

theorem toNat_charOfNat {n : Nat} (hn : n < 0xD800 ∨ (0xDFFF < n ∧ n < 0x110000)) :
    (Char.ofNat n).toNat = n := by
  rw [Char.ofNat, dif_pos hn]
  rfl

/-- What is read as a character are the bytes of it. -/
theorem eq_of_head (h : head b bytes = .char c rest) :
    b :: bytes = String.utf8EncodeChar c ++ rest := by
  -- The ranges of the second byte are what excludes code points that have shorter bytes or none.
  unfold head at h
  split at h
  · next code ranges hlead =>
    cases lead_of_lead? hlead with
    | one hm hcode =>
      obtain ⟨rfl, rfl⟩ := Head.char.inj h
      rw [encodeChar_eq, toNat_charOfNat (by omega), if_pos (by omega), ofNat_eq hm.symm]
      rfl
    | two hm hcode =>
      obtain ⟨b₁, more, rfl, hlow, hhigh, h⟩ := of_follow_cons h
      obtain ⟨rfl, rfl⟩ := Head.char.inj h
      rw [encodeChar_eq, toNat_charOfNat (by omega), if_neg (by omega), if_pos (by omega),
        ofNat_eq (b := b) (by omega), ofNat_eq (b := b₁) (by omega)]
      rfl
    | three hm hcode hrange hshort hsurrogate =>
      obtain ⟨b₁, more₁, rfl, hlow₁, hhigh₁, h⟩ := of_follow_cons h
      obtain ⟨b₂, more₂, rfl, hlow₂, hhigh₂, h⟩ := of_follow_cons h
      obtain ⟨rfl, rfl⟩ := Head.char.inj h
      rw [encodeChar_eq, toNat_charOfNat (by omega), if_neg (by omega), if_neg (by omega),
        if_pos (by omega), ofNat_eq (b := b) (by omega), ofNat_eq (b := b₁) (by omega),
        ofNat_eq (b := b₂) (by omega)]
      rfl
    | four hm hcode hrange hshort hlast =>
      obtain ⟨b₁, more₁, rfl, hlow₁, hhigh₁, h⟩ := of_follow_cons h
      obtain ⟨b₂, more₂, rfl, hlow₂, hhigh₂, h⟩ := of_follow_cons h
      obtain ⟨b₃, more₃, rfl, hlow₃, hhigh₃, h⟩ := of_follow_cons h
      obtain ⟨rfl, rfl⟩ := Head.char.inj h
      rw [encodeChar_eq, toNat_charOfNat (by omega), if_neg (by omega), if_neg (by omega),
        if_neg (by omega), ofNat_eq (b := b) (by omega), ofNat_eq (b := b₁) (by omega),
        ofNat_eq (b := b₂) (by omega), ofNat_eq (b := b₃) (by omega)]
      rfl
  · cases h

/-- A byte that belongs to a character but does not start one. -/
def IsTail (b : UInt8) : Prop :=
  0x80 ≤ b.toNat ∧ b.toNat < 0xC0

/-- An ASCII character is one byte, its code point. Any other starts with a byte of its own kind, and
some bytes follow that start no character. -/
theorem encodeChar_cases (c : Char) :
    (c.toNat < 0x80 ∧ String.utf8EncodeChar c = [UInt8.ofNat c.toNat]) ∨
      (0x80 ≤ c.toNat ∧ ∃ b b' bytes, String.utf8EncodeChar c = b :: b' :: bytes ∧ 0xC0 ≤ b.toNat ∧
        ∀ e ∈ b' :: bytes, IsTail e) := by
  have hvalid := valid_toNat c
  have htail : ∀ {n : Nat}, n < 64 → IsTail (UInt8.ofNat (n + 0x80)) := by
    intro n hn
    unfold IsTail
    rw [toNat_ofNat (by omega)]
    omega
  rw [encodeChar_eq]
  by_cases hone : c.toNat ≤ 0x7F
  · rw [if_pos hone]
    exact Or.inl ⟨by omega, rfl⟩
  · rw [if_neg hone]
    refine Or.inr ⟨by omega, ?_⟩
    split
    · refine ⟨_, _, _, rfl, by rw [toNat_ofNat (by omega)]; omega, ?_⟩
      simp only [List.forall_mem_cons]
      exact ⟨htail (by omega), nofun⟩
    · split
      · refine ⟨_, _, _, rfl, by rw [toNat_ofNat (by omega)]; omega, ?_⟩
        simp only [List.forall_mem_cons]
        exact ⟨htail (by omega), htail (by omega), nofun⟩
      · refine ⟨_, _, _, rfl, by rw [toNat_ofNat (by omega)]; omega, ?_⟩
        simp only [List.forall_mem_cons]
        exact ⟨htail (by omega), htail (by omega), htail (by omega), nofun⟩

theorem encodeChar_of_ascii (hc : c.toNat < 0x80) :
    String.utf8EncodeChar c = [UInt8.ofNat c.toNat] := by
  rw [encodeChar_eq, if_pos (by omega)]

/-! ## Texts -/

@[simp]
theorem encode_nil : encode [] = [] :=
  rfl

@[simp]
theorem encode_cons (c : Char) (t : List Char) : encode (c :: t) = String.utf8EncodeChar c ++ encode t :=
  rfl

@[simp]
theorem encode_append (s t : List Char) : encode (s ++ t) = encode s ++ encode t :=
  List.flatMap_append

/-- An ASCII character is among the characters of a text where its byte is among the bytes. -/
theorem mem_encode_iff (hc : c.toNat < 0x80) : UInt8.ofNat c.toNat ∈ encode t ↔ c ∈ t := by
  have hone : ∀ c', UInt8.ofNat c.toNat ∈ String.utf8EncodeChar c' ↔ c' = c := by
    intro c'
    rcases encodeChar_cases c' with ⟨hc', hbytes⟩ | ⟨hc', b, b', bytes, hbytes, hb, htail⟩
    · rw [hbytes, List.mem_singleton]
      constructor
      · intro h
        have hcode := congrArg UInt8.toNat h
        rw [toNat_ofNat (by omega), toNat_ofNat (by omega)] at hcode
        rw [← Char.ofNat_toNat c', ← hcode, Char.ofNat_toNat]
      · rintro rfl
        rfl
    · -- All bytes of the other characters are above.
      constructor
      · intro h
        have hcode : (UInt8.ofNat c.toNat).toNat = c.toNat := toNat_ofNat (by omega)
        rw [hbytes] at h
        rcases List.mem_cons.1 h with h | h
        · rw [h] at hcode
          omega
        · have := (htail _ h).1
          omega
      · rintro rfl
        omega
  induction t with
  | nil => exact iff_of_false nofun nofun
  | cons c' t ih =>
    rw [encode_cons, List.mem_append, List.mem_cons]
    exact or_congr ((hone c').trans eq_comm) ih

theorem read_of_char (h : head b bytes = .char c rest) :
    read (b :: bytes) = { read rest with text := c :: (read rest).text } := by
  rw [read]
  split
  · next heq =>
    obtain ⟨rfl, rfl⟩ := Head.char.inj (h.symm.trans heq)
    rfl
  · next heq => cases h.symm.trans heq
  · next heq => cases h.symm.trans heq

theorem read_of_cut (h : head b bytes = .cut) : read (b :: bytes) = ⟨[], b :: bytes, none⟩ := by
  rw [read]
  split
  · next heq => cases h.symm.trans heq
  · rfl
  · next heq => cases h.symm.trans heq

theorem read_of_invalid {n : Nat} (h : head b bytes = .invalid n) :
    read (b :: bytes) = ⟨[], b :: bytes, some n⟩ := by
  rw [read]
  split
  · next heq => cases h.symm.trans heq
  · next heq => cases h.symm.trans heq
  · next heq =>
    cases h.symm.trans heq
    rfl

theorem read_nil : read [] = ⟨[], [], none⟩ := by
  rw [read]

/-- The bytes of a text are read as it, and what is behind as if it stood alone. -/
theorem read_encode_append (t : List Char) (rest : List UInt8) :
    read (encode t ++ rest) = { read rest with text := t ++ (read rest).text } := by
  induction t with
  | nil => rfl
  | cons c t ih =>
    obtain ⟨b, bytes, hc, hhead⟩ := head_of_encode c (encode t ++ rest)
    rw [encode_cons, hc, List.append_assoc, List.cons_append, read_of_char hhead, ih]
    rfl

theorem read_encode (t : List Char) : read (encode t) = ⟨t, [], none⟩ := by
  have hread := read_encode_append t []
  rwa [List.append_nil, read_nil, List.append_nil] at hread

/-- Bytes are the bytes of the text read, and those where the reading stops. -/
theorem eq_of_read (bytes : List UInt8) : bytes = encode (read bytes).text ++ (read bytes).rest := by
  fun_induction read bytes with
  | case1 => rfl
  | case2 b bytes c rest h more ih =>
    rw [eq_of_head h]
    dsimp only
    rw [encode_cons, List.append_assoc, ← ih]
  | case3 => rfl
  | case4 => rfl

/-- Reading goes on where it stopped. -/
theorem read_append (bytes more : List UInt8) :
    read (bytes ++ more) =
      { read ((read bytes).rest ++ more) with
        text := (read bytes).text ++ (read ((read bytes).rest ++ more)).text } := by
  rw [← read_encode_append, ← List.append_assoc, ← eq_of_read]

/-- Where a reading stops, it stops again. -/
theorem read_rest (bytes : List UInt8) :
    read (read bytes).rest = ⟨[], (read bytes).rest, (read bytes).invalid⟩ := by
  -- The recursion is on what is behind a whole character, so that the induction is on the length.
  induction hlength : bytes.length using Nat.strongRecOn generalizing bytes with
  | ind length ih =>
    cases bytes with
    | nil => rw [read_nil, read_nil]
    | cons b bytes =>
      cases hhead : head b bytes with
      | char c rest =>
        rw [read_of_char hhead]
        have hle := length_le_of_head hhead
        exact ih rest.length (by rw [← hlength, List.length_cons]; omega) rest rfl
      | cut => rw [read_of_cut hhead, read_of_cut hhead]
      | invalid n => rw [read_of_invalid hhead, read_of_invalid hhead]

theorem encode_injective : Function.Injective encode := by
  intro s t h
  have hread := congrArg (fun bytes => (read bytes).text) h
  simpa only [read_encode] using hread

theorem encode_eq_nil_iff : encode t = [] ↔ t = [] :=
  ⟨fun h => encode_injective h, fun h => h ▸ rfl⟩

/-- Bytes are decoded to a text exactly if they are the bytes of it. -/
theorem decode_eq_ok_iff : decode bytes = .ok t ↔ bytes = encode t := by
  constructor
  · intro h
    unfold decode at h
    dsimp only at h
    split at h
    · next hrest =>
      have hbytes := eq_of_read bytes
      rw [List.isEmpty_iff.1 hrest, List.append_nil, Except.ok.inj h] at hbytes
      exact hbytes
    · cases h
  · rintro rfl
    unfold decode
    rw [read_encode]
    rfl

/-- The bytes of a text need no replacements. -/
theorem lossy_encode (t : List Char) : lossy (encode t) = t := by
  induction t with
  | nil => rw [encode_nil, lossy]
  | cons c t ih =>
    obtain ⟨b, bytes, hc, hhead⟩ := head_of_encode c (encode t)
    rw [encode_cons, hc, List.cons_append, lossy]
    split
    · next heq =>
      obtain ⟨rfl, rfl⟩ := Head.char.inj (hhead.symm.trans heq)
      rw [ih]
    · next heq => cases hhead.symm.trans heq
    · next heq => cases hhead.symm.trans heq

/-- The bytes of a text are valid. -/
theorem fromUTF8?_encode (t : List Char) :
    String.fromUTF8? ⟨(encode t).toArray⟩ = some (String.ofList t) := by
  have hbytes : (⟨(encode t).toArray⟩ : ByteArray) = (String.ofList t).toByteArray := by
    rw [String.toByteArray_ofList]
    apply ByteArray.ext
    simp [List.utf8Encode, encode]
  rw [hbytes, String.fromUTF8?, dif_pos (String.isValidUTF8 _)]
  rfl

theorem eq_encode_iff : bytes = encode t ↔ (read bytes).text = t ∧ (read bytes).rest = [] := by
  constructor
  · rintro rfl
    rw [read_encode]
    exact ⟨rfl, rfl⟩
  · rintro ⟨rfl, hrest⟩
    have hbytes := eq_of_read bytes
    rwa [hrest, List.append_nil] at hbytes

/-- What is behind the bytes of a text within the bytes of another is a text. -/
theorem of_encode_append (h : encode s ++ rest = encode t) : ∃ u, t = s ++ u ∧ rest = encode u := by
  have hread := read_encode_append s rest
  rw [h, read_encode] at hread
  obtain ⟨htext, hrest, -⟩ := Reading.mk.inj hread
  have hbytes := eq_of_read rest
  rw [← hrest, List.append_nil] at hbytes
  exact ⟨_, htext, hbytes⟩

/-! ## Bytes that are no text -/

theorem follow_append_invalid {code count n : Nat} {ranges : List (Nat × Nat)}
    (h : follow code count ranges bytes = .invalid n) (more : List UInt8) :
    follow code count ranges (bytes ++ more) = .invalid n := by
  fun_induction follow code count ranges bytes with
  | case1 => cases h
  | case2 => cases h
  | case3 code count low high ranges b rest hrange ih =>
    rw [List.cons_append, follow, if_pos hrange]
    exact ih h
  | case4 code count low high ranges b rest hrange =>
    rw [List.cons_append, follow, if_neg hrange]
    exact h

/-- Bytes that start no character start none with more bytes behind them. -/
theorem head_append_invalid {n : Nat} (h : head b bytes = .invalid n) (more : List UInt8) :
    head b (bytes ++ more) = .invalid n := by
  unfold head at h ⊢
  split at h
  · exact follow_append_invalid h more
  · exact h

/-- Bytes that are found not to be a text are not the start of one. -/
theorem not_encode_of_invalid {n : Nat} (h : (read bytes).invalid = some n) (more : List UInt8)
    (t : List Char) : bytes ++ more ≠ encode t := by
  intro hall
  have hrest := read_rest bytes
  rw [h] at hrest
  rw [eq_of_read bytes, List.append_assoc] at hall
  obtain ⟨u, -, hu⟩ := of_encode_append hall
  generalize (read bytes).rest = rest at hrest hu
  cases rest with
  | nil =>
    rw [read_nil] at hrest
    cases hrest
  | cons b rest =>
    cases hhead : head b rest with
    | char c rest' =>
      rw [read_of_char hhead] at hrest
      cases hrest
    | cut =>
      rw [read_of_cut hhead] at hrest
      cases hrest
    | invalid m =>
      have hread := read_of_invalid (head_append_invalid hhead more)
      rw [← List.cons_append, hu, read_encode] at hread
      cases hread

/-- Bytes that are those of a text. -/
def IsText (bytes : List UInt8) : Prop :=
  ∃ t, bytes = encode t

theorem isText_encode (t : List Char) : IsText (encode t) :=
  ⟨t, rfl⟩

theorem IsText.append (hbytes : IsText bytes) (hmore : IsText more) : IsText (bytes ++ more) := by
  obtain ⟨s, rfl⟩ := hbytes
  obtain ⟨t, rfl⟩ := hmore
  exact ⟨s ++ t, (encode_append s t).symm⟩

theorem IsText.flatMap {α : Type} {f : α → List UInt8} {l : List α} (h : ∀ a ∈ l, IsText (f a)) :
    IsText (l.flatMap f) := by
  induction l with
  | nil => exact isText_encode []
  | cons a l ih =>
    obtain ⟨ha, hl⟩ := List.forall_mem_cons.1 h
    exact ha.append (ih hl)

/-- A text starts with a byte that starts a character. -/
theorem not_isTail_of_encode_cons (h : encode (c :: t) = b :: more) : ¬ IsTail b := by
  unfold IsTail
  rw [encode_cons] at h
  rcases encodeChar_cases c with ⟨hc, hone⟩ | ⟨-, b', b'', bytes, hmore, hb, -⟩
  · rw [hone] at h
    obtain ⟨rfl, -⟩ := List.cons.inj h
    rw [toNat_ofNat (by omega)]
    omega
  · rw [hmore] at h
    obtain ⟨rfl, -⟩ := List.cons.inj h
    omega

/-- What a text and a byte behind it start with starts a character, unless it is that byte. -/
theorem exists_head_append (t : List Char) (e : UInt8) (bytes : List UInt8) :
    ∃ b more, encode t ++ e :: bytes = b :: more ∧ (IsTail b → b = e) := by
  cases t with
  | nil => exact ⟨e, bytes, rfl, fun _ => rfl⟩
  | cons c t =>
    obtain ⟨b, start, hstart, -⟩ := head_of_encode c []
    have hencode : encode (c :: t) = b :: (start ++ encode t) := by
      rw [encode_cons, hstart, List.cons_append]
    refine ⟨b, start ++ encode t ++ e :: bytes, by rw [hencode, List.cons_append], ?_⟩
    exact fun htail => absurd htail (not_isTail_of_encode_cons hencode)

/-- A byte other than ASCII, behind a text, does not make a text with a byte behind it unless that one is
of the kind that goes on with a character. -/
theorem not_isText_of_lead {d e : UInt8} (hd : 0x80 ≤ d.toNat) (he : IsTail e → IsTail d) (s : List Char)
    (more : List UInt8) : ¬ IsText (encode s ++ d :: e :: more) := by
  rintro ⟨t, hall⟩
  obtain ⟨u, -, hu⟩ := of_encode_append hall
  cases u with
  | nil => cases hu
  | cons c u =>
    have hlead : ¬ IsTail d := not_isTail_of_encode_cons hu.symm
    rw [encode_cons] at hu
    rcases encodeChar_cases c with ⟨hc, hone⟩ | ⟨-, b, b', bytes, hmore, -, htail⟩
    · rw [hone] at hu
      obtain ⟨rfl, -⟩ := List.cons.inj hu
      rw [toNat_ofNat (by omega)] at hd
      omega
    · rw [hmore] at hu
      obtain ⟨rfl, -⟩ := List.cons.inj (List.cons.inj hu).2
      exact hlead (he (htail e List.mem_cons_self))

end Utf8
end SqlCells
