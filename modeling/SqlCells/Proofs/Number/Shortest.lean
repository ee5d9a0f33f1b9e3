import SqlCells.Proofs.Number.Rounding

/-!
# The fewest digits

The search for the fewest digits stays within the interval of numbers that are rounded back, and
seventeen digits are always enough: the grid of seventeen digits is finer than the interval is wide.
-/

namespace SqlCells

/-- The number that decimal digits and a power of ten stand for. -/
def Decimal.value (d : Decimal) : ℚ :=
  d.digits * 10 ^ d.exponent

namespace Decimal

open Binary64

variable {num den m n count : Nat} {e shift top : Int} {d : Decimal}

theorem quotient_scaled (num den : Nat) (shift : Int) :
    quotient (scaled num den shift) = (num : ℚ) / den * 10 ^ shift := by
  exact_mod_cast quotient_power 10 num den shift

theorem scaled_pos (hden : 0 < den) : 0 < (scaled num den shift).2 :=
  power_pos (by decide) hden

/-- Zeros at the end are moved from the digits to the power of ten. -/
theorem value_stripZeros (n : Nat) (d : Decimal) : (stripZeros n d).value = d.value := by
  induction n generalizing d with
  | zero => rfl
  | succ n ih =>
    rw [stripZeros]
    split
    · next hzero =>
      have hdigits : d.digits / 10 * 10 = d.digits := Nat.div_mul_cancel (Nat.dvd_of_mod_eq_zero hzero.2)
      have hcast : (d.digits : ℚ) = (d.digits / 10 : Nat) * 10 := by exact_mod_cast hdigits.symm
      rw [ih, value, value, hcast, zpow_add₀ (by norm_num), zpow_one]
      ring
    · rfl

/-- No fewer digits than are counted stand before the point. -/
theorem ceilLog10_le (hnum : 0 < num) (hden : 0 < den) :
    (10 : ℚ) ^ (ceilLog10 num den - 1) ≤ (num : ℚ) / den := by
  have hpos : (0 : ℚ) < den := by exact_mod_cast hden
  have hnumPos : (0 : ℚ) < num := by exact_mod_cast hnum
  unfold ceilLog10
  dsimp only
  split
  · next hle =>
    have hwhole : num / den ≠ 0 := (Nat.div_pos hle hden).ne'
    have hlow := (toDigits_bounds hwhole).1
    have hplaces : 0 < (Nat.toDigits 10 (num / den)).length := Nat.length_toDigits_pos
    generalize (Nat.toDigits 10 (num / den)).length = places at *
    have hexp : (places : Int) - 1 = (places - 1 : Nat) := by omega
    rw [hexp, zpow_natCast, le_div_iff₀ hpos]
    have hmul : 10 ^ (places - 1) * den ≤ num := (Nat.le_div_iff_mul_le hden).1 hlow
    exact_mod_cast hmul
  · next hlt =>
    have hwhole : den / num ≠ 0 := (Nat.div_pos (by omega) hnum).ne'
    have hhigh := (toDigits_bounds hwhole).2
    have hplaces : 0 < (Nat.toDigits 10 (den / num)).length := Nat.length_toDigits_pos
    generalize (Nat.toDigits 10 (den / num)).length = places at *
    split
    · next hshort =>
      have hexp : -((places : Int) - 1) - 1 = -(places : Nat) := by ring
      rw [hexp, zpow_neg, zpow_natCast, inv_eq_one_div, div_le_div_iff₀ (by positivity) hpos, one_mul]
      have hmul : den < 10 ^ places * num := (Nat.div_lt_iff_lt_mul hnum).1 hhigh
      have hle : den ≤ num * 10 ^ places := by
        rw [Nat.mul_comm]
        exact hmul.le
      exact_mod_cast hle
    · next hlong =>
      have hexp : 2 - (places : Int) - 1 = -((places - 1 : Nat) : Int) := by omega
      rw [hexp, zpow_neg, zpow_natCast, inv_eq_one_div, div_le_div_iff₀ (by positivity) hpos, one_mul]
      have hle : den ≤ num * 10 ^ (places - 1) := by
        rw [Nat.pow_eq] at hlong
        exact Nat.le_of_not_lt hlong
      exact_mod_cast hle

/-! ## The interval -/

theorem le_mul_iff {p : Nat × Nat} (hp : 0 < p.2) (n : Nat) : p.1 ≤ n * p.2 ↔ quotient p ≤ n := by
  have hpos : (0 : ℚ) < p.2 := by exact_mod_cast hp
  rw [quotient, div_le_iff₀ hpos]
  exact_mod_cast Iff.rfl

theorem lt_mul_iff {p : Nat × Nat} (hp : 0 < p.2) (n : Nat) : p.1 < n * p.2 ↔ quotient p < n := by
  have hpos : (0 : ℚ) < p.2 := by exact_mod_cast hp
  rw [quotient, div_lt_iff₀ hpos]
  exact_mod_cast Iff.rfl

theorem mul_le_iff {p : Nat × Nat} (hp : 0 < p.2) (n : Nat) : n * p.2 ≤ p.1 ↔ (n : ℚ) ≤ quotient p := by
  rw [← not_lt, lt_mul_iff hp, not_lt]

theorem around_den_pos (m : Nat) (e : Int) : 0 < (around m e).den :=
  shifted_pos (by decide)

theorem around_unit (k m : Nat) (e : Int) :
    ((k * (shifted 1 4 e).1 : Nat) : ℚ) / (around m e).den = (k : ℚ) / 4 * 2 ^ e := by
  have hunit := quotient_shifted 1 4 e
  unfold quotient at hunit
  have hden : (around m e).den = (shifted 1 4 e).2 := rfl
  rw [hden, Nat.cast_mul, mul_div_assoc, hunit]
  push_cast
  ring

theorem around_low (hm : 0 < m) :
    ((around m e).low : ℚ) / (around m e).den = (m - gapBelow m e) * 2 ^ e := by
  have hlow : (around m e).low =
      (4 * m - if m = 2 ^ 52 ∧ -1074 < e then 1 else 2) * (shifted 1 4 e).1 := by
    unfold around
    simp [Nat.pow_eq]
  rw [hlow, around_unit]
  unfold gapBelow
  split
  · rw [Nat.cast_sub (by omega)]
    push_cast
    ring
  · rw [Nat.cast_sub (by omega)]
    push_cast
    ring

theorem around_value (m : Nat) (e : Int) :
    ((around m e).value : ℚ) / (around m e).den = m * 2 ^ e := by
  have hvalue : (around m e).value = 4 * m * (shifted 1 4 e).1 := rfl
  rw [hvalue, around_unit]
  push_cast
  ring

theorem around_high (m : Nat) (e : Int) :
    ((around m e).high : ℚ) / (around m e).den = (m + 1 / 2) * 2 ^ e := by
  have hhigh : (around m e).high = (4 * m + 2) * (shifted 1 4 e).1 := rfl
  rw [hhigh, around_unit]
  push_cast
  ring

/-- What is tested is whether a number lies in the interval. -/
theorem covers_iff (hm : 0 < m) :
    (around m e).covers shift n = true ↔ RoundsTo m e (n * 10 ^ (-shift)) := by
  have hpos := ten_zpow_pos shift
  have hden := around_den_pos m e
  have hbounds : ∀ {x : Nat} {y : ℚ}, (x : ℚ) / (around m e).den = y →
      ((scaled x (around m e).den shift).1 ≤ n * (scaled x (around m e).den shift).2 ↔
          y ≤ n * 10 ^ (-shift)) ∧
        (n * (scaled x (around m e).den shift).2 ≤ (scaled x (around m e).den shift).1 ↔
          n * 10 ^ (-shift) ≤ y) := by
    intro x y hy
    rw [le_mul_iff (scaled_pos hden), mul_le_iff (scaled_pos hden), quotient_scaled, hy, zpow_neg,
      ← div_eq_mul_inv, le_div_iff₀ hpos, div_le_iff₀ hpos]
    exact ⟨Iff.rfl, Iff.rfl⟩
  obtain ⟨hlowLe, hlowGe⟩ := hbounds (around_low hm)
  obtain ⟨hhighLe, hhighGe⟩ := hbounds (around_high m e)
  have hclosed : (around m e).closed = (m % 2 == 0) := rfl
  unfold Around.covers
  dsimp only
  rw [hclosed]
  by_cases heven : m % 2 = 0
  · rw [if_pos (beq_iff_eq.2 heven), Bool.and_eq_true, decide_eq_true_iff, decide_eq_true_iff, hlowLe,
      hhighGe]
    exact ⟨fun h => ⟨h.1, h.2, fun hodd => by omega⟩, fun h => ⟨h.low, h.high⟩⟩
  · rw [if_neg (by simpa using heven), Bool.and_eq_true, decide_eq_true_iff, decide_eq_true_iff,
      ← not_le, ← not_le, hlowGe, hhighLe, not_le, not_le]
    exact ⟨fun h => ⟨h.1.le, h.2.le, fun _ => h⟩, fun h => h.inside (by omega)⟩

/-! ## The search -/

theorem of_onGrid (hm : 0 < m) (hgrid : (around m e).onGrid top count = some d) :
    RoundsTo m e d.value := by
  have hcovers : ∀ {n : Nat}, (around m e).covers ((count : Int) - top) n = true →
      RoundsTo m e (Decimal.value ⟨n, -((count : Int) - top)⟩) := fun h => (covers_iff hm).1 h
  unfold Around.onGrid at hgrid
  dsimp only at hgrid
  split at hgrid
  · next hbelow _ =>
    cases hgrid
    exact hcovers hbelow
  · next _ habove =>
    cases hgrid
    exact hcovers habove
  · next hbelow habove =>
    split at hgrid
    · cases hgrid
      exact hcovers hbelow
    · cases hgrid
      exact hcovers habove
  · cases hgrid

theorem covers_of_onGrid_eq_none (hgrid : (around m e).onGrid top count = none) :
    let shift := (count : Int) - top
    let v := scaled (around m e).value (around m e).den shift
    (around m e).covers shift (v.1 / v.2) = false ∧ (around m e).covers shift (v.1 / v.2 + 1) = false := by
  unfold Around.onGrid at hgrid
  dsimp only at hgrid ⊢
  split at hgrid
  · cases hgrid
  · cases hgrid
  · split at hgrid <;> cases hgrid
  · next hbelow habove => exact ⟨hbelow, habove⟩

/-- The interval of a number is wider than the grid of seventeen digits. -/
theorem grid_lt_width (hrep : Representable m e) (htop : (10 : ℚ) ^ (top - 1) ≤ m * 2 ^ e) :
    (10 : ℚ) ^ (top - 17) < (gapBelow m e + 1 / 2) * 2 ^ e := by
  have hpos := two_zpow_pos e
  have hgrid : (10 : ℚ) ^ (top - 17) * 10 ^ 16 ≤ m * 2 ^ e := by
    have hexp : top - 1 = top - 17 + (16 : Nat) := by ring
    rwa [hexp, zpow_add₀ (by norm_num), zpow_natCast] at htop
  have hmantissa : (m : ℚ) < (gapBelow m e + 1 / 2) * 10 ^ 16 := by
    unfold gapBelow
    split
    · next hpower =>
      rw [hpower.1]
      norm_num
    · have hbound : (m : ℚ) < 2 ^ 53 := by exact_mod_cast hrep.bound
      norm_num at hbound ⊢
      linarith
  have hscaled : (m : ℚ) * 2 ^ e < (gapBelow m e + 1 / 2) * 10 ^ 16 * 2 ^ e :=
    mul_lt_mul_of_pos_right hmantissa hpos
  nlinarith

/-- One of the two neighbours of a number on that grid is rounded back to it. -/
theorem onGrid_seventeen (hrep : Representable m e) (htop : (10 : ℚ) ^ (top - 1) ≤ m * 2 ^ e) :
    (around m e).onGrid top 17 ≠ none := by
  intro hnone
  have hm := hrep.positive
  have hshift : -(((17 : Nat) : Int) - top) = top - 17 := by push_cast; ring
  obtain ⟨hbelow, habove⟩ := covers_of_onGrid_eq_none hnone
  rw [Bool.eq_false_iff, ne_eq, covers_iff hm, hshift] at hbelow habove
  have hden := around_den_pos m e
  have hgrid := ten_zpow_pos (top - 17)
  have hwidth := grid_lt_width hrep htop
  have hunit := two_zpow_pos e
  -- The number lies between the two neighbours, and the interval on neither side reaches them.
  have hvalue : quotient (scaled (around m e).value (around m e).den (((17 : Nat) : Int) - top)) *
      10 ^ (top - 17) = m * 2 ^ e := by
    rw [quotient_scaled, around_value, mul_assoc, ← zpow_add₀ (by norm_num)]
    have hexp : ((17 : Nat) : Int) - top + (top - 17) = 0 := by push_cast; ring
    rw [hexp, zpow_zero, mul_one]
  have hpos : 0 < (scaled (around m e).value (around m e).den (((17 : Nat) : Int) - top)).2 := scaled_pos hden
  generalize scaled (around m e).value (around m e).den (((17 : Nat) : Int) - top) = p at *
  have hfloor : ((p.1 / p.2 : Nat) : ℚ) ≤ quotient p :=
    (mul_le_iff hpos _).1 (Nat.div_mul_le_self p.1 p.2)
  have hceil : quotient p < ((p.1 / p.2 + 1 : Nat) : ℚ) :=
    (lt_mul_iff hpos _).1 (Nat.lt_mul_of_div_lt (Nat.lt_succ_self _) hpos)
  generalize p.1 / p.2 = n at *
  have hlow : (n : ℚ) * 10 ^ (top - 17) ≤ m * 2 ^ e := by
    rw [← hvalue]
    exact mul_le_mul_of_nonneg_right hfloor hgrid.le
  have hhigh : m * 2 ^ e < ((n + 1 : Nat) : ℚ) * 10 ^ (top - 17) := by
    rw [← hvalue]
    exact mul_lt_mul_of_pos_right hceil hgrid
  have hgap := gapBelow_pos m e
  have hlowOut : (n : ℚ) * 10 ^ (top - 17) ≤ (m - gapBelow m e) * 2 ^ e := by
    by_contra hin
    exact hbelow (.of_inside (not_le.1 hin) (by nlinarith))
  have hhighOut : (m + 1 / 2) * 2 ^ e ≤ ((n + 1 : Nat) : ℚ) * 10 ^ (top - 17) := by
    by_contra hin
    exact habove (.of_inside (by nlinarith) (not_le.1 hin))
  push_cast at hhighOut
  linarith

/-- The fewest digits lie in the interval of their number. -/
theorem shortest_roundsTo (hrep : Representable m e) : RoundsTo m e (shortest m e).value := by
  have hm := hrep.positive
  have hnonzero : m ≠ 0 := by omega
  have hvalue := around_value m e
  have hden := around_den_pos m e
  have hpos : 0 < (around m e).value := by
    have hcast : (0 : ℚ) < (around m e).value := by
      have hdenPos : (0 : ℚ) < (around m e).den := by exact_mod_cast hden
      have hmPos : (0 : ℚ) < m := by exact_mod_cast hm
      rw [div_eq_iff hdenPos.ne'] at hvalue
      rw [hvalue]
      have := two_zpow_pos e
      positivity
    exact_mod_cast hcast
  have htop := ceilLog10_le hpos hden
  rw [hvalue] at htop
  unfold shortest
  rw [if_neg hnonzero]
  dsimp only
  split
  · next d hfound =>
    obtain ⟨count, -, hgrid⟩ := List.exists_of_findSome?_eq_some hfound
    rw [value_stripZeros]
    exact of_onGrid hm hgrid
  · next hnone =>
    have hlast := List.findSome?_eq_none_iff.1 hnone 16 (by simp)
    exact absurd hlast (onGrid_seventeen hrep htop)

end Decimal
end SqlCells
