import SqlCells.Proofs.Text.Case
import SqlCells.Proofs.Url.Address
import SqlCells.Proofs.Url.Escape
import SqlCells.Url.Parser

/-!
# Hosts read back

A host that was read is a name in which nothing is left to change, or an address.  Its text has no character
that ends the authority, and is read as the same host again.
-/

namespace SqlCells
namespace Url

/-! ## Names -/

/-- A domain that was read: ASCII in lower case, and no address. -/
structure IsDomain (s : List Char) : Prop where
  ne_nil : s ≠ []
  lower : ∀ c ∈ s, c.toNat < 0x80 ∧ c.toLower = c
  allowed : ∀ c ∈ s, isForbiddenInDomain c = false
  isName : endsInNumber s = false

/-- A name that was read where the scheme is not special: nothing is left to escape. -/
structure IsPlainName (s : List Char) : Prop where
  ne_nil : s ≠ []
  kept : ∀ c ∈ s, IsKept [] c
  allowed : ∀ c ∈ s, isForbiddenInHost c = false

/-- What a host may be once it was read behind a scheme of a kind. -/
inductive Host.IsRead : SchemeKind → Host → Prop
  | none {k : SchemeKind} (hk : k ≠ .special) : IsRead k .none
  | domain {k : SchemeKind} {s : List Char} (hk : k ≠ .plain) (hs : IsDomain s)
      (hlocal : k = .file → s ≠ "localhost".toList) : IsRead k (.name s)
  | named {s : List Char} (hs : IsPlainName s) : IsRead .plain (.name s)
  | address4 {k : SchemeKind} {n : Nat} (hk : k ≠ .plain) (hn : n < 2 ^ 32) : IsRead k (.address4 n)
  | address6 {k : SchemeKind} {gs : List Nat} (hgs : IsAddress6 gs) : IsRead k (.address6 gs)

/-! ### Punycode -/

/-- The characters of labels in Punycode. -/
def IsLabelChar (c : Char) : Prop :=
  c.toNat < 0x80 ∧ c.toLower = c

theorem isLabelChar_punycodeDigit : ∀ d < 36, IsLabelChar (punycodeDigit d) := by
  unfold IsLabelChar
  decide

theorem isLabelChar_of_mem_variableDigits {fuel q k bias : Nat} {c : Char}
    (hc : c ∈ variableDigits fuel q k bias) : IsLabelChar c := by
  induction fuel generalizing q k with
  | zero => cases hc
  | succ fuel ih =>
    -- The threshold is between the least and the greatest one.
    obtain ⟨t, ht, hlow, hhigh⟩ : ∃ t, (if k ≤ bias then 1 else if bias + 26 ≤ k then 26 else k - bias) = t ∧
        1 ≤ t ∧ t ≤ 26 := by
      refine ⟨_, rfl, ?_⟩
      split
      · decide
      · split <;> omega
    rw [variableDigits, ht] at hc
    split at hc
    · exact List.mem_singleton.1 hc ▸ isLabelChar_punycodeDigit q (by omega)
    · have hmod := Nat.mod_lt (q - t) (show 36 - t > 0 by omega)
      rcases List.mem_cons.1 hc with rfl | hc
      · exact isLabelChar_punycodeDigit _ (by omega)
      · exact ih hc

/-- The encoder writes such characters only. -/
theorem isLabelChar_of_mem_step {basic m : Nat} {st : Punycode} (input : List Char)
    (hst : ∀ c ∈ st.out, IsLabelChar c) : ∀ c ∈ (st.step basic m input).out, IsLabelChar c := by
  unfold Punycode.step
  induction input generalizing st with
  | nil => exact hst
  | cons c input ih =>
    refine ih ?_
    dsimp only
    split
    · exact hst
    split
    · intro d hd
      rcases List.mem_append.1 hd with hd | hd
      · exact hst d hd
      · exact isLabelChar_of_mem_variableDigits hd
    · exact hst

theorem isLabelChar_of_mem_punycode {label : List Char} (hlabel : ∀ c ∈ label, c.toLower = c) :
    ∀ c ∈ punycode label, IsLabelChar c := by
  unfold punycode
  refine List.foldlRecOn (motive := fun state : Punycode × Nat => ∀ c ∈ state.1.out, IsLabelChar c) _ _ ?_ ?_
  · intro c hc
    rcases List.mem_append.1 hc with hc | hc
    · obtain ⟨hmem, hascii⟩ := List.mem_filter.1 hc
      exact ⟨of_decide_eq_true hascii, hlabel c hmem⟩
    · split at hc
      · cases hc
      · exact List.mem_singleton.1 hc ▸ by unfold IsLabelChar; decide
  · rintro ⟨st, n⟩ hst m -
    exact isLabelChar_of_mem_step label hst

theorem isLabelChar_of_mem_asciiLabel {label : List Char} (hlabel : ∀ c ∈ label, c.toLower = c) :
    ∀ c ∈ asciiLabel label, IsLabelChar c := by
  intro c hc
  unfold asciiLabel at hc
  split at hc
  · next hascii => exact ⟨by simpa using List.all_eq_true.1 hascii c hc, hlabel c hc⟩
  · rcases List.mem_append.1 hc with hc | hc
    · have hprefix : ∀ c ∈ ['x', 'n', '-', '-'], IsLabelChar c := by
        unfold IsLabelChar
        decide
      exact hprefix c hc
    · exact isLabelChar_of_mem_punycode hlabel c hc

/-! ### Domains -/

/-- The domain that a text becomes. -/
def domainOf (decoded : List Char) : List Char :=
  Text.joinWith ['.'] ((Text.splitAt (· == '.') (Text.lower decoded)).map asciiLabel)

theorem isLabelChar_of_mem_domainOf (decoded : List Char) : ∀ c ∈ domainOf decoded, IsLabelChar c := by
  intro c hc
  rcases Text.of_mem_joinWith hc with hc | ⟨label, hlabel, hc⟩
  · exact List.mem_singleton.1 hc ▸ by unfold IsLabelChar; decide
  · obtain ⟨piece, hpiece, rfl⟩ := List.mem_map.1 hlabel
    exact isLabelChar_of_mem_asciiLabel
      (fun d hd => Text.toLower_of_mem_lowerAfter (Text.of_mem_splitAt hpiece hd).1) c hc

/-- A text in ASCII and in lower case is a domain as it is. -/
theorem domainOf_of_isLabelChar {s : List Char} (hs : ∀ c ∈ s, IsLabelChar c) : domainOf s = s := by
  have hlower : Text.lower s = s := by
    unfold Text.lower
    rw [Text.lowerAfter_of_ascii [] fun c hc => (hs c hc).1, Text.asciiLower,
      List.map_congr_left fun c hc => (hs c hc).2, List.map_id']
  have hlabels : (Text.splitAt (· == '.') s).map asciiLabel = Text.splitAt (· == '.') s := by
    have hlabel : ∀ label ∈ Text.splitAt (· == '.') s, asciiLabel label = label := by
      intro label hlabel
      refine if_pos (List.all_eq_true.2 fun c hc => decide_eq_true ?_)
      exact (hs c (Text.of_mem_splitAt hlabel hc).1).1
    rw [List.map_congr_left hlabel, List.map_id']
  unfold domainOf
  rw [hlower, hlabels, Text.joinWith_splitAt]

/-- The host of a special scheme, by the domain that its text becomes. -/
theorem specialHost_of_head_ne {s : List Char} (hhead : s.head? ≠ some '[') {decoded : String}
    (hdecoded : String.fromUTF8? ⟨(percentDecode (Utf8.encode s)).toArray⟩ = some decoded) :
    specialHost s =
      if (domainOf decoded.toList).any isForbiddenInDomain then .error .badDomain
      else if (domainOf decoded.toList).isEmpty then .error .emptyHost
      else if endsInNumber (domainOf decoded.toList) then
        match address4? (domainOf decoded.toList) with
        | some n => .ok (.address4 n)
        | none => .error .badAddress4
      else .ok (.name (domainOf decoded.toList)) := by
  unfold specialHost
  split
  · exact absurd rfl hhead
  · rw [show s.flatMap String.utf8EncodeChar = Utf8.encode s from rfl, hdecoded]
    rfl

/-- A text in lower case in which nothing is forbidden is read as it is. -/
theorem specialHost_of_isLabelChar {s : List Char} (hne : s ≠ []) (hs : ∀ c ∈ s, IsLabelChar c)
    (hallowed : ∀ c ∈ s, isForbiddenInDomain c = false) :
    specialHost s =
      if endsInNumber s then
        match address4? s with
        | some n => .ok (.address4 n)
        | none => .error .badAddress4
      else .ok (.name s) := by
  have hhead : s.head? ≠ some '[' := fun hhead =>
    absurd (hallowed '[' (List.mem_of_mem_head? hhead)) (by decide)
  have hdecoded : String.fromUTF8? ⟨(percentDecode (Utf8.encode s)).toArray⟩ = some (String.ofList s) := by
    rw [percentDecode_encode, Utf8.fromUTF8?_encode]
    refine fun c hc => ⟨(hs c hc).1, ?_⟩
    rintro rfl
    exact absurd (hallowed '%' hc) (by decide)
  have hany : s.any isForbiddenInDomain = false := by simpa using hallowed
  rw [specialHost_of_head_ne hhead hdecoded, String.toList_ofList, domainOf_of_isLabelChar hs, hany,
    List.isEmpty_eq_false_iff.2 hne]
  rfl

theorem specialHost_of_isDomain {s : List Char} (hs : IsDomain s) : specialHost s = .ok (.name s) := by
  rw [specialHost_of_isLabelChar hs.ne_nil hs.lower hs.allowed, hs.isName]
  rfl

theorem specialHost_address4Text {n : Nat} (hn : n < 2 ^ 32) :
    specialHost (address4Text n) = .ok (.address4 n) := by
  have hchar : ∀ c ∈ address4Text n, IsLabelChar c ∧ isForbiddenInDomain c = false := by
    intro c hc
    rcases isDigit_of_mem_address4Text hc with hdigit | rfl
    · have hascii := Text.toNat_of_isAlphanum (c := c) (by simp [Char.isAlphanum, hdigit])
      revert hdigit
      refine Text.ascii_induction (motive := fun c => c.isDigit = true →
        IsLabelChar c ∧ isForbiddenInDomain c = false) ?_ hascii
      unfold IsLabelChar
      decide +kernel
    · unfold IsLabelChar
      decide
  rw [specialHost_of_isLabelChar (address4Text_ne_nil n) (fun c hc => (hchar c hc).1) fun c hc => (hchar c hc).2,
    endsInNumber_address4Text, address4?_address4Text hn]
  rfl

/-- An address in brackets is read, whatever the scheme is. -/
theorem dropSuffix?_address6Text (gs : List Nat) :
    Text.dropSuffix? [']'] (insideText gs ++ [']']) = some (insideText gs) :=
  Text.dropSuffix?_eq_some_iff.2 rfl

theorem specialHost_address6Text {gs : List Nat} (hgs : IsAddress6 gs) :
    specialHost (address6Text gs) = .ok (.address6 gs) := by
  rw [address6Text_eq, List.cons_append, specialHost, dropSuffix?_address6Text]
  dsimp only
  rw [address6?_insideText hgs]

theorem opaqueHost_address6Text {gs : List Nat} (hgs : IsAddress6 gs) :
    opaqueHost (address6Text gs) = .ok (.address6 gs) := by
  rw [address6Text_eq, List.cons_append, opaqueHost, dropSuffix?_address6Text]
  dsimp only
  rw [address6?_insideText hgs]

theorem opaqueHost_of_isPlainName {s : List Char} (hs : IsPlainName s) : opaqueHost s = .ok (.name s) := by
  have hany : s.any isForbiddenInHost = false := by simpa using hs.allowed
  unfold opaqueHost
  split
  · exact absurd rfl hs.ne_nil
  · exact absurd (hs.allowed '[' List.mem_cons_self) (by decide)
  · rw [hany, escape_of_kept hs.kept]
    rfl

/-! ## What is read -/

theorem isRead_of_specialHost {k : SchemeKind} {s : List Char} {h : Host} (hk : k ≠ .plain)
    (hread : specialHost s = .ok h) (hlocal : k = .file → h ≠ .name "localhost".toList) : h.IsRead k := by
  unfold specialHost at hread
  split at hread
  · split at hread
    · split at hread
      · next gs haddress =>
        obtain rfl := Except.ok.inj hread
        exact .address6 (isAddress6_of_address6? haddress)
      · cases hread
    · cases hread
  · split at hread
    · cases hread
    · next decoded hdecoded =>
      have hlabel := isLabelChar_of_mem_domainOf decoded.toList
      dsimp only at hread
      rw [← domainOf] at hread
      split at hread
      · cases hread
      split at hread
      · cases hread
      next hallowed hne =>
      split at hread
      · split at hread
        · next n haddress =>
          obtain rfl := Except.ok.inj hread
          exact .address4 hk (lt_of_address4? haddress)
        · cases hread
      · next hname =>
        obtain rfl := Except.ok.inj hread
        refine .domain hk ⟨by simpa using hne, hlabel, by simpa using hallowed, by simpa using hname⟩ ?_
        exact fun hfile heq => hlocal hfile (heq ▸ rfl)

theorem isRead_of_opaqueHost {s : List Char} {h : Host} (hread : opaqueHost s = .ok h) : h.IsRead .plain := by
  have hkeeps : KeepsEscapes [] := by decide
  unfold opaqueHost at hread
  split at hread
  · obtain rfl := Except.ok.inj hread
    exact .none (by decide)
  · split at hread
    · split at hread
      · next gs haddress =>
        obtain rfl := Except.ok.inj hread
        exact .address6 (isAddress6_of_address6? haddress)
      · cases hread
    · cases hread
  · next hne _ =>
    split at hread
    · cases hread
    · next hallowed =>
      obtain rfl := Except.ok.inj hread
      refine .named ⟨fun hnil => hne (escape_eq_nil_iff.1 hnil), fun c hc => isKept_of_mem_escape hkeeps hc, ?_⟩
      intro c hc
      rcases mem_of_mem_escape hc with hmem | hmem
      · simpa using fun h => hallowed (List.any_eq_true.2 ⟨c, hmem, h⟩)
      · have hescape : ∀ c ∈ "%0123456789ABCDEF".toList, isForbiddenInHost c = false := by decide
        exact hescape c hmem

/-! ## Texts of hosts -/

/-- A character that ends neither a URL nor its authority. -/
def IsHostChar (c : Char) : Prop :=
  0x20 < c.toNat ∧ c.toNat < 0x7F ∧ c ∉ ['/', '?', '#', '@', '\\']

theorem IsHostChar.endsAuthority {c : Char} (hc : IsHostChar c) (k : SchemeKind) :
    endsAuthority k c = false := by
  obtain ⟨-, -, hends⟩ := hc
  simp only [List.mem_cons, List.not_mem_nil, or_false, not_or] at hends
  obtain ⟨hslash, hquestion, hhash, -, hback⟩ := hends
  simp [Url.endsAuthority, hslash, hquestion, hhash, hback]

/-- A character that does not end a host without brackets either. -/
def IsBareChar (c : Char) : Prop :=
  IsHostChar c ∧ c ≠ ':' ∧ c ≠ '['

instance : DecidablePred IsHostChar := fun c =>
  inferInstanceAs (Decidable (0x20 < c.toNat ∧ c.toNat < 0x7F ∧ c ∉ ['/', '?', '#', '@', '\\']))

instance : DecidablePred IsBareChar := fun c =>
  inferInstanceAs (Decidable (IsHostChar c ∧ c ≠ ':' ∧ c ≠ '['))

theorem IsDomain.isBareChar {s : List Char} (hs : IsDomain s) : ∀ c ∈ s, IsBareChar c := by
  intro c hc
  have hallowed := hs.allowed c hc
  revert hallowed
  refine Text.ascii_induction (motive := fun c => isForbiddenInDomain c = false → IsBareChar c) ?_ (hs.lower c hc).1
  decide +kernel

theorem IsPlainName.isBareChar {s : List Char} (hs : IsPlainName s) : ∀ c ∈ s, IsBareChar c := by
  intro c hc
  have hallowed := hs.allowed c hc
  have hkept := hs.kept c hc
  revert hallowed hkept
  refine Text.ascii_induction
    (motive := fun c => isForbiddenInHost c = false → IsKept [] c → IsBareChar c) ?_ (hs.kept c hc).ascii
  decide +kernel

theorem isBareChar_of_isDigit {c : Char} (hdigit : c.isDigit = true) : IsBareChar c := by
  have hascii := Text.toNat_of_isAlphanum (c := c) (by simp [Char.isAlphanum, hdigit])
  revert hdigit
  refine Text.ascii_induction (motive := fun c => c.isDigit = true → IsBareChar c) ?_ hascii
  decide +kernel

theorem isBareChar_of_mem_address4Text {n : Nat} {c : Char} (hc : c ∈ address4Text n) : IsBareChar c := by
  rcases isDigit_of_mem_address4Text hc with hdigit | rfl
  · exact isBareChar_of_isDigit hdigit
  · decide

theorem isHostChar_of_mem_insideText {gs : List Nat} {c : Char} (hc : c ∈ insideText gs) :
    IsHostChar c ∧ c ≠ ']' := by
  have hchar : ∀ c ∈ "0123456789abcdef:".toList, IsHostChar c ∧ c ≠ ']' := by decide
  exact hchar c (mem_insideText hc)

theorem isHostChar_of_mem_address6Text {gs : List Nat} {c : Char} (hc : c ∈ address6Text gs) :
    IsHostChar c := by
  rw [address6Text_eq] at hc
  rcases List.mem_append.1 hc with hc | hc
  · rcases List.mem_cons.1 hc with rfl | hc
    · decide
    · exact (isHostChar_of_mem_insideText hc).1
  · obtain rfl := List.mem_singleton.1 hc
    decide

/-- A host without brackets goes up to the first colon. -/
theorem hostLength_append {k : SchemeKind} {t : List Char} (ht : ∀ c ∈ t, IsBareChar c)
    (rest : List Char) : hostLength k false (t ++ rest) = t.length + hostLength k false rest := by
  induction t with
  | nil => simp
  | cons c t ih =>
    obtain ⟨⟨hc, hcolon, hbracket⟩, ht⟩ := List.forall_mem_cons.1 ht
    have hinside : (if c = '[' then true else if c = ']' then false else false) = false := by
      simp [hbracket]
    rw [List.cons_append, hostLength, hc.endsAuthority k, beq_false_of_ne hcolon, hinside, ih ht,
      List.length_cons]
    simp only [Bool.false_and, Bool.or_false, Bool.false_eq_true, if_false]
    omega

/-- A host in brackets goes up to the closing one, colons or not. -/
theorem hostLength_brackets {k : SchemeKind} {inside : List Char}
    (hinside : ∀ c ∈ inside, IsHostChar c ∧ c ≠ ']') (rest : List Char) :
    hostLength k false ('[' :: (inside ++ ']' :: rest)) = inside.length + 2 + hostLength k false rest := by
  have htail : hostLength k true (inside ++ ']' :: rest) = inside.length + 1 + hostLength k false rest := by
    induction inside with
    | nil =>
      rw [List.nil_append, hostLength]
      simp [Url.endsAuthority]
      omega
    | cons c inside ih =>
      obtain ⟨⟨hc, hbracket⟩, hinside⟩ := List.forall_mem_cons.1 hinside
      have hstill : (if c = '[' then true else if c = ']' then false else true) = true := by
        simp [hbracket]
      rw [List.cons_append, hostLength, hc.endsAuthority k, hstill, ih hinside, List.length_cons]
      simp
      omega
  rw [hostLength]
  simp [Url.endsAuthority, htail]
  omega

/-- The text of a host that was read: it is read as the host again, and ends where it ends. -/
theorem Host.IsRead.text {k : SchemeKind} {h : Host} (hread : h.IsRead k) {t : List Char} (ht : h.text? = some t) :
    readHost k t = .ok h ∧ t ≠ [] ∧ (∀ c ∈ t, IsHostChar c) ∧
      ∀ rest, hostLength k false (t ++ rest) = t.length + hostLength k false rest := by
  cases hread with
  | none => cases ht
  | @domain _ s hk hs =>
    obtain rfl : s = t := Option.some.inj ht
    refine ⟨?_, hs.ne_nil, fun c hc => (hs.isBareChar c hc).1, hostLength_append hs.isBareChar⟩
    rw [readHost, if_neg hk, specialHost_of_isDomain hs]
  | @named s hs =>
    obtain rfl : s = t := Option.some.inj ht
    refine ⟨?_, hs.ne_nil, fun c hc => (hs.isBareChar c hc).1, hostLength_append hs.isBareChar⟩
    rw [readHost, if_pos rfl, opaqueHost_of_isPlainName hs]
  | @address4 _ n hk hn =>
    obtain rfl : address4Text n = t := Option.some.inj ht
    refine ⟨?_, address4Text_ne_nil n, fun c hc => (isBareChar_of_mem_address4Text hc).1,
      hostLength_append fun c hc => isBareChar_of_mem_address4Text hc⟩
    rw [readHost, if_neg hk, specialHost_address4Text hn]
  | @address6 _ gs hgs =>
    obtain rfl : address6Text gs = t := Option.some.inj ht
    refine ⟨?_, by rw [address6Text_eq]; exact List.cons_ne_nil _ _, fun c hc => isHostChar_of_mem_address6Text hc,
      fun rest => ?_⟩
    · unfold readHost
      split
      · exact opaqueHost_address6Text hgs
      · exact specialHost_address6Text hgs
    · rw [address6Text_eq, List.append_assoc, List.cons_append, List.singleton_append,
        hostLength_brackets fun c hc => isHostChar_of_mem_insideText hc]
      simp

end Url
end SqlCells
