import SqlCells.Proofs.Number.Numerals

/-!
# Whole numbers

A double-precision number is written with a point exactly if it is not whole.  A whole number stands on the
grid of ones itself, so the search for the fewest digits never goes behind the point; and a number with a
fraction is further from the whole numbers than any number that is rounded to it.
-/

namespace SqlCells

namespace Decimal

open Binary64

variable {m count : Nat} {e top : Int} {d : Decimal}

theorem point_mem_positional_iff (d : Decimal) : '.' ∈ d.positional ↔ d.exponent < 0 := by
  have hdigits : '.' ∉ Nat.toDigits 10 d.digits := fun hmem => by cases isDigit_of_mem_toDigits hmem
  have hzeros : ∀ k, '.' ∉ List.replicate k '0' := fun k hmem => by
    cases isDigit_of_mem_zeros hmem
  unfold positional
  split
  · next hwhole => simp [hdigits, hwhole]
  · next hpart =>
    have hneg : d.exponent < 0 := by omega
    split <;> simp [hneg]

theorem exponent_le_stripZeros (n : Nat) (d : Decimal) : d.exponent ≤ (stripZeros n d).exponent := by
  induction n generalizing d with
  | zero => exact le_refl _
  | succ n ih =>
    rw [stripZeros]
    split
    · have hnext := ih ⟨d.digits / 10, d.exponent + 1⟩
      dsimp only at hnext
      omega
    · exact le_refl _

theorem exponent_of_onGrid {i : Around} (h : i.onGrid top count = some d) : d.exponent = top - count := by
  unfold Around.onGrid at h
  dsimp only at h
  split at h
  · cases h
    dsimp only
    omega
  · cases h
    dsimp only
    omega
  · split at h <;> cases h <;> dsimp only <;> omega
  · cases h

/-- A whole number stands on the grid of ones. -/
theorem onGrid_ones (hm : 0 < m) {n : Nat} (hwhole : (m : ℚ) * 2 ^ e = n) :
    (around m e).onGrid count count ≠ none := by
  intro hnone
  obtain ⟨hbelow, -⟩ := covers_of_onGrid_eq_none hnone
  rw [sub_self] at hbelow
  have hvalue : quotient (scaled (around m e).value (around m e).den 0) = n := by
    rw [quotient_scaled, around_value, zpow_zero, mul_one, hwhole]
  have hpos : 0 < (scaled (around m e).value (around m e).den 0).2 := scaled_pos (around_den_pos m e)
  generalize scaled (around m e).value (around m e).den 0 = p at hbelow hvalue hpos
  have hfloor : p.1 / p.2 = n := by
    have hlow : n * p.2 ≤ p.1 := (mul_le_iff hpos n).2 hvalue.ge
    have hhigh : p.1 < (n + 1) * p.2 := by
      refine (lt_mul_iff hpos (n + 1)).2 ?_
      rw [hvalue]
      exact_mod_cast Nat.lt_succ_self n
    exact Nat.div_eq_of_lt_le hlow hhigh
  -- The number itself lies in the interval of the numbers that are rounded to it.
  have hgap := gapBelow_pos m e
  have hunit := two_zpow_pos e
  refine absurd ((covers_iff hm).2 ?_) (Bool.eq_false_iff.1 hbelow)
  rw [hfloor, neg_zero, zpow_zero, mul_one, ← hwhole]
  exact .of_inside (by nlinarith) (by nlinarith)

/-- What is found first by counting up is found no later than where it is found at all. -/
theorem exists_first {α : Type} {f : Nat → Option α} {n : Nat} {a : α}
    (hfound : (List.range n).findSome? f = some a) :
    ∃ k, f k = some a ∧ ∀ j < k, f j = none := by
  obtain ⟨before, k, behind, hrange, hk, hnone⟩ := List.findSome?_eq_some_iff.1 hfound
  rw [List.range_eq_range'] at hrange
  obtain ⟨count, -, hbefore, hbehind⟩ := List.range'_eq_append_iff.1 hrange
  have hhead := congrArg List.head? hbehind
  rw [List.head?_cons, List.head?_range'] at hhead
  split at hhead
  · cases hhead
  · obtain rfl : k = count := by simpa using hhead
    refine ⟨k, hk, fun j hj => hnone j ?_⟩
    rw [hbefore]
    simpa using hj

/-- Digits without a fraction that are rounded to a number are the number: both are multiples of its last
place, and nearer than one of it. -/
theorem eq_of_roundsTo {n : Nat} (h : RoundsTo m e n) (he : e < 0) : (m : ℚ) * 2 ^ e = n := by
  obtain ⟨hlow, hhigh, -⟩ := h
  have hgap := gapBelow_le m e
  obtain ⟨j, hj⟩ := Int.eq_ofNat_of_zero_le (by omega : 0 ≤ -e)
  have hpos : (0 : ℚ) < 2 ^ j := by positivity
  have hpower : (2 : ℚ) ^ e * 2 ^ j = 1 := by
    rw [← zpow_natCast, ← zpow_add₀ (by norm_num)]
    have hexp : e + (j : Int) = 0 := by omega
    rw [hexp, zpow_zero]
  have hlow' : (m : ℚ) - 1 / 2 ≤ n * 2 ^ j := by
    have hscaled := mul_le_mul_of_nonneg_right hlow hpos.le
    rw [mul_assoc, hpower, mul_one] at hscaled
    linarith
  have hhigh' : (n : ℚ) * 2 ^ j ≤ m + 1 / 2 := by
    have hscaled := mul_le_mul_of_nonneg_right hhigh hpos.le
    rwa [mul_assoc, hpower, mul_one] at hscaled
  have hsame : n * 2 ^ j = m := by
    have hleft : (m : ℚ) < ((n * 2 ^ j + 1 : ℕ) : ℚ) := by push_cast; linarith
    have hright : ((n * 2 ^ j : ℕ) : ℚ) < ((m + 1 : ℕ) : ℚ) := by push_cast; linarith
    have hleft' : m < n * 2 ^ j + 1 := by exact_mod_cast hleft
    have hright' : n * 2 ^ j < m + 1 := by exact_mod_cast hright
    omega
  rw [← hsame]
  push_cast
  rw [mul_assoc, mul_comm ((2 : ℚ) ^ j), hpower, mul_one]

theorem whole_of_exponent_nonneg (hrep : Representable m e) (hwhole : 0 ≤ (shortest m e).exponent) :
    ∃ n : Nat, (m : ℚ) * 2 ^ e = n := by
  rcases le_or_gt 0 e with he | he
  · obtain ⟨k, rfl⟩ := Int.eq_ofNat_of_zero_le he
    exact ⟨m * 2 ^ k, by push_cast; rw [zpow_natCast]⟩
  · obtain ⟨k, hk⟩ := Int.eq_ofNat_of_zero_le hwhole
    have hrounds := shortest_roundsTo hrep
    have hvalue : (shortest m e).value = ((shortest m e).digits * 10 ^ k : Nat) := by
      rw [value, hk]
      push_cast
      rw [zpow_natCast]
    rw [hvalue] at hrounds
    exact ⟨_, eq_of_roundsTo hrounds he⟩

theorem exponent_nonneg_of_whole (hrep : Representable m e) {n : Nat} (hn : (m : ℚ) * 2 ^ e = n) :
    0 ≤ (shortest m e).exponent := by
  have hm := hrep.positive
  have hmPos : (0 : ℚ) < m := by exact_mod_cast hm
  have hnonzero : m ≠ 0 := by omega
  have hdenPos : (0 : ℚ) < (around m e).den := by exact_mod_cast around_den_pos m e
  have hvalue : (around m e).value = n * (around m e).den := by
    have hquotient := around_value m e
    rw [hn, div_eq_iff hdenPos.ne'] at hquotient
    exact_mod_cast hquotient
  have hpositive : 0 < n := by
    have hnPos : (0 : ℚ) < n := by
      rw [← hn]
      have := two_zpow_pos e
      positivity
    exact_mod_cast hnPos
  -- The number has at least one digit in front of the point.
  obtain ⟨top, htop, htopPos⟩ : ∃ top : Nat,
      ceilLog10 (around m e).value (around m e).den = top ∧ 0 < top := by
    refine ⟨_, if_pos ?_, Nat.length_toDigits_pos⟩
    rw [hvalue]
    exact Nat.le_mul_of_pos_left _ hpositive
  unfold shortest
  rw [if_neg hnonzero]
  dsimp only
  rw [htop]
  split
  · next d hfound =>
    obtain ⟨k, hgrid, hbefore⟩ := exists_first hfound
    have hearly : k ≤ top - 1 := by
      by_contra hlate
      have hnone := hbefore (top - 1) (by omega)
      rw [Nat.sub_add_cancel htopPos] at hnone
      exact onGrid_ones hm hn hnone
    have hexponent := exponent_of_onGrid hgrid
    have hstrip := exponent_le_stripZeros 20 d
    omega
  · exact le_refl _

/-- The fewest digits of a number stop in front of the point exactly if the number is whole. -/
theorem exponent_shortest_nonneg_iff (hrep : Representable m e) :
    0 ≤ (shortest m e).exponent ↔ ∃ n : Nat, (m : ℚ) * 2 ^ e = n :=
  ⟨whole_of_exponent_nonneg hrep, fun ⟨_, hn⟩ => exponent_nonneg_of_whole hrep hn⟩

end Decimal

namespace Binary64

/-- Whether a number has no fraction. -/
def IsWhole (x : Binary64) : Prop :=
  ∃ (m : Nat) (e : Int) (n : Nat), x.magnitude = .finite m e ∧ (m : ℚ) * 2 ^ e = n

/-- A number is written without a point exactly if it is whole. -/
theorem point_not_mem_plainText_iff {x : Binary64} (hfinite : x.isFinite = true) :
    '.' ∉ x.plainText ↔ x.IsWhole := by
  obtain ⟨m, e, hmagnitude⟩ := exists_magnitude hfinite
  obtain ⟨hrep, -⟩ := withSign_ofMagnitude hmagnitude
  have htext : '.' ∈ x.plainText ↔ '.' ∈ (Decimal.shortest m e).positional := by
    unfold plainText layout
    rw [hmagnitude]
    dsimp only
    split <;> simp
  have hwhole : x.IsWhole ↔ ∃ n : Nat, (m : ℚ) * 2 ^ e = n := by
    constructor
    · rintro ⟨m', e', n, hmagnitude', hn⟩
      obtain ⟨rfl, rfl⟩ := Magnitude.finite.inj (hmagnitude.symm.trans hmagnitude')
      exact ⟨n, hn⟩
    · rintro ⟨n, hn⟩
      exact ⟨m, e, n, hmagnitude, hn⟩
  rw [htext, Decimal.point_mem_positional_iff, not_lt, hwhole]
  rcases hrep with rfl | hrep
  · have hzero : (Decimal.shortest 0 e).exponent = 0 := rfl
    rw [hzero]
    exact iff_of_true (le_refl _) ⟨0, by simp⟩
  · exact Decimal.exponent_shortest_nonneg_iff hrep

end Binary64
end SqlCells
