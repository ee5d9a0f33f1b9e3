import Mathlib.Tactic.ByContra
import SqlCells.Proofs.Text.Words
import SqlCells.Text.Case

/-!
# Lower case of ASCII words

The only characters beyond ASCII that become an ASCII letter in lower case are the Kelvin sign, which
becomes a `k`, and a dotted capital, which leaves its dot.  So a text becomes an ASCII word without the
letter `k` only if it is that word up to the case of ASCII letters.
-/

namespace SqlCells
namespace Text

/-- Whether a character is an ASCII letter in lower case other than `k`. -/
def isPlainLower (c : Char) : Bool :=
  c.isLower && c != 'k'

/-- What holds of the first 128 code points holds of every ASCII character. -/
theorem ascii_induction {motive : Char → Prop} (hall : ∀ n : Fin 128, motive (Char.ofNat n))
    {c : Char} (hc : c.toNat < 0x80) : motive c := by
  have h := hall ⟨c.toNat, hc⟩
  rwa [Char.ofNat_toNat] at h

theorem toNat_of_isPlainLower {c : Char} (hc : isPlainLower c = true) : c.toNat < 0x80 := by
  obtain ⟨hlower, -⟩ := Bool.and_eq_true_iff.1 hc
  have hrange : (decide (c.val ≥ 'a'.val) && decide (c.val ≤ 'z'.val)) = true := hlower
  have hle : c.val.toNat ≤ 'z'.val.toNat :=
    UInt32.le_iff_toNat_le.1 (of_decide_eq_true (Bool.and_eq_true_iff.1 hrange).2)
  exact Nat.lt_of_le_of_lt hle (by decide)

theorem toNat_of_isAlphanum {c : Char} (hc : c.isAlphanum = true) : c.toNat < 0x80 := by
  have hrange : (decide (c.val ≥ 'A'.val ∧ c.val ≤ 'Z'.val) ||
      (decide (c.val ≥ 'a'.val) && decide (c.val ≤ 'z'.val)) ||
      (decide (c.val ≥ '0'.val) && decide (c.val ≤ '9'.val))) = true := hc
  simp only [Bool.or_eq_true, Bool.and_eq_true, decide_eq_true_eq] at hrange
  obtain ⟨d, hle, hd⟩ : ∃ d : Char, c.val ≤ d.val ∧ d.toNat < 0x80 := by
    rcases hrange with (⟨-, hle⟩ | ⟨-, hle⟩) | ⟨-, hle⟩
    · exact ⟨'Z', hle, by decide⟩
    · exact ⟨'z', hle, by decide⟩
    · exact ⟨'9', hle, by decide⟩
  exact Nat.lt_of_le_of_lt (UInt32.le_iff_toNat_le.1 hle) hd

theorem toLower_of_nonAscii {c : Char} (hc : 0x80 ≤ c.toNat) : c.toLower = c := by
  unfold Char.toLower
  rw [dif_neg]
  rintro ⟨-, hle⟩
  have hle' : c.val.toNat ≤ 'Z'.val.toNat := UInt32.le_iff_toNat_le.1 hle
  have hlt : 'Z'.val.toNat < 0x80 := by decide
  exact absurd (Nat.lt_of_le_of_lt hle' hlt) (Nat.not_lt.2 hc)

theorem isPlainLower_ofNat {n : Nat} (hn : isPlainLower (Char.ofNat n) = true) : n < 0x80 := by
  by_cases hvalid : n.isValidChar
  · have hcode := toNat_of_isPlainLower hn
    rw [Char.ofNat, dif_pos hvalid] at hcode
    exact hcode
  · rw [Char.ofNat, dif_neg hvalid] at hn
    exact absurd hn (by decide)

/-- The runs of the lower-case table stay beyond ASCII, but for the Kelvin sign. -/
theorem lowerRuns_shift : ∀ r ∈ Unicode.lowerRuns,
    0x80 ≤ (r.first : Int) + r.shift ∨ r.first = r.last ∧ (r.first : Int) + r.shift = 'k'.toNat := by
  decide +kernel

theorem apply_lowerRuns {n : Nat} (hn : 0x80 ≤ n) :
    0x80 ≤ Unicode.CaseRun.apply Unicode.lowerRuns n ∨
      Unicode.CaseRun.apply Unicode.lowerRuns n = 'k'.toNat := by
  unfold Unicode.CaseRun.apply
  split
  · next r hfind =>
    have hcovers := List.find?_some hfind
    simp only [Bool.and_eq_true, decide_eq_true_eq] at hcovers
    obtain ⟨⟨hfirst, hlast⟩, -⟩ := hcovers
    rcases lowerRuns_shift r (List.mem_of_find?_eq_some hfind) with hbeyond | ⟨hone, hkelvin⟩
    · exact Or.inl (by omega)
    · exact Or.inr (by omega)
  · exact Or.inl hn

/-- The lower case of a character beyond ASCII is no plain lower-case word. -/
theorem lowerChar_of_nonAscii {c : Char} (hc : 0x80 ≤ c.toNat) :
    ∃ d ∈ lowerChar c, isPlainLower d = false := by
  unfold lowerChar
  rw [if_neg (Nat.not_lt.2 hc)]
  split
  · next ns hlookup =>
    have hns : ns = [0x69, 0x307] := by
      rw [Unicode.lowerExpansions, List.lookup_cons] at hlookup
      split at hlookup
      · exact (Option.some.inj hlookup).symm
      · cases hlookup
    subst hns
    exact ⟨Char.ofNat 0x307, by simp [ofCodePoints], by decide⟩
  · refine ⟨_, List.mem_singleton_self _, ?_⟩
    rcases apply_lowerRuns hc with hbeyond | hkelvin
    · rw [Bool.eq_false_iff]
      exact fun hplain => absurd (isPlainLower_ofNat hplain) (Nat.not_lt.2 hbeyond)
    · rw [hkelvin]
      decide

/-- The lower case of a character beyond ASCII starts beyond ASCII, or with one of two letters. -/
theorem exists_lowerChar_cons {c : Char} (hc : 0x80 ≤ c.toNat) :
    ∃ d rest, lowerChar c = d :: rest ∧ (0x80 ≤ d.toNat ∨ d ∈ ['i', 'k', '\x00']) := by
  unfold lowerChar
  rw [if_neg (Nat.not_lt.2 hc)]
  split
  · next ns hlookup =>
    rw [Unicode.lowerExpansions, List.lookup_cons] at hlookup
    split at hlookup
    · obtain rfl := Option.some.inj hlookup
      exact ⟨'i', _, rfl, Or.inr (by simp)⟩
    · cases hlookup
  · refine ⟨_, [], rfl, ?_⟩
    rcases apply_lowerRuns hc with hbeyond | hkelvin
    · by_cases hvalid : (Unicode.CaseRun.apply Unicode.lowerRuns c.toNat).isValidChar
      · rw [Char.ofNat, dif_pos hvalid]
        exact Or.inl hbeyond
      · rw [Char.ofNat, dif_neg hvalid]
        exact Or.inr (by decide)
    · rw [hkelvin]
      exact Or.inr (by decide)

theorem lowerChar_of_ascii {c : Char} (hc : c.toNat < 0x80) : lowerChar c = [c.toLower] := by
  unfold lowerChar
  rw [if_pos hc]

/-- What is in lower case stays as it is. -/
theorem toLower_of_mem_lowerChar {c d : Char} (hd : d ∈ lowerChar c) : d.toLower = d := by
  by_cases hc : c.toNat < 0x80
  · rw [lowerChar_of_ascii hc, List.mem_singleton] at hd
    subst hd
    exact ascii_induction (motive := fun c => c.toLower.toLower = c.toLower) (by decide +kernel) hc
  · unfold lowerChar at hd
    rw [if_neg hc] at hd
    split at hd
    · next ns hlookup =>
      rw [Unicode.lowerExpansions, List.lookup_cons] at hlookup
      split at hlookup
      · obtain rfl := Option.some.inj hlookup
        revert d
        decide
      · cases hlookup
    · rw [List.mem_singleton] at hd
      subst hd
      rcases apply_lowerRuns (Nat.not_lt.1 hc) with hbeyond | hkelvin
      · by_cases hvalid : (Unicode.CaseRun.apply Unicode.lowerRuns c.toNat).isValidChar
        · rw [Char.ofNat, dif_pos hvalid]
          exact toLower_of_nonAscii hbeyond
        · rw [Char.ofNat, dif_neg hvalid]
          decide
      · rw [hkelvin]
        decide

theorem toLower_of_mem_lowerAfter {passed s : List Char} {d : Char} (hd : d ∈ lowerAfter passed s) :
    d.toLower = d := by
  induction s generalizing passed with
  | nil => cases hd
  | cons c rest ih =>
    rw [lowerAfter] at hd
    rcases List.mem_append.1 hd with hd | hd
    · split at hd
      · split at hd <;> exact List.mem_singleton.1 hd ▸ by decide
      · exact toLower_of_mem_lowerChar hd
    · exact ih hd

/-- ASCII characters become lower case one by one. -/
theorem lowerAfter_of_ascii {s : List Char} (passed : List Char) (hs : ∀ c ∈ s, c.toNat < 0x80) :
    lowerAfter passed s = asciiLower s := by
  induction s generalizing passed with
  | nil => rfl
  | cons c rest ih =>
    have hc : c.toNat < 0x80 := hs c (by simp)
    have hsigma : c ≠ 'Σ' := by
      rintro rfl
      exact absurd hc (by decide)
    have hrest := ih (c :: passed) fun d hd => hs d (by simp [hd])
    simp [lowerAfter, hsigma, lowerChar_of_ascii hc, hrest, asciiLower]

theorem ascii_of_lowerAfter {s : List Char} (passed : List Char)
    (hs : ∀ d ∈ lowerAfter passed s, isPlainLower d = true) : ∀ c ∈ s, c.toNat < 0x80 := by
  induction s generalizing passed with
  | nil => simp
  | cons c rest ih =>
    unfold lowerAfter at hs
    have hrest := ih (c :: passed) fun d hd => hs d (List.mem_append_right _ hd)
    have hc : c.toNat < 0x80 := by
      by_contra hbeyond
      by_cases hsigma : c = 'Σ'
      · rw [if_pos hsigma] at hs
        split at hs
        · exact absurd (hs 'ς' (by simp)) (by decide)
        · exact absurd (hs 'σ' (by simp)) (by decide)
      · rw [if_neg hsigma] at hs
        obtain ⟨d, hd, hplain⟩ := lowerChar_of_nonAscii (Nat.not_lt.1 hbeyond)
        rw [hs d (List.mem_append_left _ hd)] at hplain
        cases hplain
    intro d hd
    rcases List.mem_cons.1 hd with rfl | hd
    · exact hc
    · exact hrest d hd

theorem ascii_of_isPlainLower_toLower {c : Char} (hc : isPlainLower c.toLower = true) :
    c.toNat < 0x80 := by
  by_contra hbeyond
  rw [toLower_of_nonAscii (Nat.not_lt.1 hbeyond)] at hc
  exact hbeyond (toNat_of_isPlainLower hc)

theorem ascii_of_asciiLower {s : List Char} (hs : ∀ d ∈ asciiLower s, isPlainLower d = true) :
    ∀ c ∈ s, c.toNat < 0x80 :=
  fun c hc => ascii_of_isPlainLower_toLower (hs c.toLower (List.mem_map_of_mem hc))

/-- A text is a plain word in lower case exactly if it is that word up to the case of ASCII letters. -/
theorem lower_eq_iff {w : List Char} (hw : ∀ d ∈ w, isPlainLower d = true) (s : List Char) :
    lower s = w ↔ asciiLower s = w := by
  unfold lower
  constructor
  · rintro rfl
    exact (lowerAfter_of_ascii [] (ascii_of_lowerAfter [] hw)).symm
  · rintro rfl
    exact lowerAfter_of_ascii [] (ascii_of_asciiLower hw)

/-- The upper case of an ASCII text is that of its lower case. -/
theorem upper_of_ascii {s : List Char} (hs : ∀ c ∈ s, c.toNat < 0x80) :
    upper s = asciiUpper (asciiLower s) := by
  induction s with
  | nil => rfl
  | cons c rest ih =>
    have hc : upperChar c = [c.toLower.toUpper] := by
      refine ascii_induction (motive := fun c => upperChar c = [c.toLower.toUpper]) ?_
        (hs c (by simp))
      decide +kernel
    have hrest := ih fun d hd => hs d (by simp [hd])
    simp only [upper, asciiUpper, asciiLower] at hrest
    simp [upper, asciiUpper, asciiLower, hc, hrest]

end Text
end SqlCells
