import Mathlib.Algebra.Order.Field.Power
import Mathlib.Tactic.FieldSimp
import Mathlib.Tactic.Linarith
import Mathlib.Tactic.NormNum
import Mathlib.Tactic.Positivity
import Mathlib.Tactic.Ring
import SqlCells.Number.Decimal

/-!
# Rounding to the nearest number

A fraction is rounded on exact natural numbers.  All fractions in the interval around a representable
number are rounded to it: half a unit of its last place on either side, but a quarter below a power of
two, where the numbers below stand closer together; the ends belong to the interval of an even mantissa.
-/

namespace SqlCells

/-- The number that a fraction stands for. -/
def quotient (p : Nat × Nat) : ℚ :=
  p.1 / p.2

/-- A power of the base goes to the side of the fraction where its exponent is natural. -/
theorem quotient_power (base num den : Nat) (shift : Int) :
    quotient (if 0 ≤ shift then (num * Nat.pow base shift.toNat, den)
      else (num, den * Nat.pow base (-shift).toNat)) = (num : ℚ) / den * base ^ shift := by
  unfold quotient
  split
  · next hshift =>
    obtain ⟨k, rfl⟩ := Int.eq_ofNat_of_zero_le hshift
    have hpow : ((num * Nat.pow base k : Nat) : ℚ) = num * (base : ℚ) ^ k := by
      push_cast [Nat.pow_eq]
      rfl
    simp only [Int.toNat_natCast, hpow, zpow_natCast]
    ring
  · next hshift =>
    obtain ⟨k, hk⟩ := Int.eq_ofNat_of_zero_le (a := -shift) (by omega)
    obtain rfl : shift = -(k : Int) := by omega
    have hpow : ((den * Nat.pow base k : Nat) : ℚ) = den * (base : ℚ) ^ k := by
      push_cast [Nat.pow_eq]
      rfl
    simp only [neg_neg, Int.toNat_natCast, hpow, zpow_neg, zpow_natCast]
    rw [div_mul_eq_div_div, div_eq_mul_inv _ ((base : ℚ) ^ k)]

theorem power_pos {base num den : Nat} {shift : Int} (hbase : base ≠ 0) (hden : 0 < den) :
    0 < (if 0 ≤ shift then (num * Nat.pow base shift.toNat, den)
      else (num, den * Nat.pow base (-shift).toNat)).2 := by
  split
  · exact hden
  · exact Nat.mul_pos hden (Nat.pow_pos (Nat.pos_of_ne_zero hbase))

namespace Binary64

theorem two_zpow_pos (e : ℤ) : (0 : ℚ) < 2 ^ e := by
  positivity

theorem ten_zpow_pos (e : ℤ) : (0 : ℚ) < 10 ^ e := by
  positivity

section Fractions

variable {num den n : Nat} {shift : Int}

theorem quotient_shifted (num den : Nat) (shift : Int) :
    quotient (shifted num den shift) = (num : ℚ) / den * 2 ^ shift := by
  exact_mod_cast quotient_power 2 num den shift

theorem shifted_pos (hden : 0 < den) : 0 < (shifted num den shift).2 :=
  power_pos two_ne_zero hden

/-- Whole parts are compared as the fractions are. -/
theorem div_lt_iff {p : Nat × Nat} (hp : 0 < p.2) (k : Nat) : p.1 / p.2 < k ↔ quotient p < k := by
  have hpos : (0 : ℚ) < p.2 := by exact_mod_cast hp
  rw [Nat.div_lt_iff_lt_mul hp, quotient, div_lt_iff₀ hpos]
  exact_mod_cast Iff.rfl

/-- A number and a natural number that it is rounded to, a half to the even one. -/
structure Near (v : ℚ) (n : Nat) : Prop where
  low : (n : ℚ) - 1 / 2 ≤ v
  high : v ≤ n + 1 / 2
  inside : n % 2 = 1 → (n : ℚ) - 1 / 2 < v ∧ v < n + 1 / 2

/-- The same on natural numbers, where twice the number is compared. -/
theorem Near.scaled {p : Nat × Nat} (hp : 0 < p.2) (h : Near (quotient p) n) :
    2 * n * p.2 ≤ 2 * p.1 + p.2 ∧ 2 * p.1 ≤ 2 * n * p.2 + p.2 ∧
      (n % 2 = 1 → 2 * n * p.2 < 2 * p.1 + p.2 ∧ 2 * p.1 < 2 * n * p.2 + p.2) := by
  have hpos : (0 : ℚ) < p.2 := by exact_mod_cast hp
  obtain ⟨hlow, hhigh, hinside⟩ := h
  unfold quotient at hlow hhigh hinside
  rw [le_div_iff₀ hpos] at hlow
  rw [div_le_iff₀ hpos] at hhigh
  rw [lt_div_iff₀ hpos, div_lt_iff₀ hpos] at hinside
  refine ⟨?_, ?_, fun hodd => ?_⟩
  · have hq : (2 * n * p.2 : ℚ) ≤ 2 * p.1 + p.2 := by linarith
    exact_mod_cast hq
  · have hq : (2 * p.1 : ℚ) ≤ 2 * n * p.2 + p.2 := by linarith
    exact_mod_cast hq
  · obtain ⟨hlow, hhigh⟩ := hinside hodd
    have hq : (2 * n * p.2 : ℚ) < 2 * p.1 + p.2 := by linarith
    have hq' : (2 * p.1 : ℚ) < 2 * n * p.2 + p.2 := by linarith
    exact ⟨by exact_mod_cast hq, by exact_mod_cast hq'⟩

theorem roundQuotient_eq {p : Nat × Nat} (hp : 0 < p.2) (h : Near (quotient p) n) :
    roundQuotient p.1 p.2 = n := by
  obtain ⟨hlow, hhigh, hinside⟩ := h.scaled hp
  obtain ⟨num, den⟩ := p
  dsimp only at hp hlow hhigh hinside ⊢
  have hsplit : den * (num / den) + num % den = num := Nat.div_add_mod num den
  have hrest : num % den < den := Nat.mod_lt num hp
  unfold roundQuotient
  dsimp only
  generalize num / den = q at *
  generalize num % den = r at *
  -- The whole part is the number that is rounded to or the one below.
  have hq : q = n ∨ q + 1 = n := by
    have hle : q < n + 1 := by
      by_contra hcontra
      have hge : n + 1 ≤ q := by omega
      have := Nat.mul_le_mul_left den hge
      nlinarith
    have hge : n < q + 2 := by
      by_contra hcontra
      have hle : q + 2 ≤ n := by omega
      have := Nat.mul_le_mul_left den hle
      nlinarith
    omega
  rcases hq with rfl | rfl
  · have hhalf : 2 * r ≤ den := by nlinarith
    have hodd : q % 2 = 1 → 2 * r < den := fun hodd => by nlinarith [hinside hodd]
    split
    · rfl
    · split
      · omega
      · split
        · rfl
        · exact absurd (hodd (by omega)) (by omega)
  · have hhalf : den ≤ 2 * r := by nlinarith
    have hodd : (q + 1) % 2 = 1 → den < 2 * r := fun hodd => by nlinarith [hinside hodd]
    split
    · omega
    · split
      · rfl
      · split
        · exact absurd (hodd (by omega)) (by omega)
        · rfl

end Fractions

/-! ## The unit of the last place -/

/-- The exponent of the last of fifty-three binary digits of a fraction. -/
def lastPlace (num den : Nat) : Int :=
  let guess : Int := (bitLength num : Int) - (bitLength den : Int) - 52
  let exact := shifted num den (-guess)
  if exact.1 / exact.2 < Nat.pow 2 52 then guess - 1 else guess

theorem bitLength_bounds {n : Nat} (hn : n ≠ 0) :
    (2 : ℚ) ^ ((bitLength n : Int) - 1) ≤ n ∧ (n : ℚ) < 2 ^ (bitLength n : Int) := by
  unfold bitLength
  rw [if_neg hn]
  have hlow : 2 ^ Nat.log2 n ≤ n := Nat.log2_self_le hn
  have hhigh : n < 2 ^ (Nat.log2 n + 1) := Nat.lt_log2_self
  constructor
  · have hexp : ((Nat.log2 n + 1 : Nat) : Int) - 1 = (Nat.log2 n : Nat) := by omega
    rw [hexp, zpow_natCast]
    exact_mod_cast hlow
  · rw [zpow_natCast]
    exact_mod_cast hhigh

theorem mul_zpow_lt {v : ℚ} {k : Nat} {u : Int} : v * 2 ^ (-u) < 2 ^ k ↔ v < 2 ^ (k + u) := by
  rw [zpow_neg, ← div_eq_mul_inv, div_lt_iff₀ (two_zpow_pos u), zpow_add₀ two_ne_zero, zpow_natCast]

/-- In units of its last place a fraction has fifty-three binary digits before the point. -/
theorem lastPlace_bounds {num den : Nat} (hnum : num ≠ 0) (hden : den ≠ 0) :
    (2 : ℚ) ^ (52 + lastPlace num den) ≤ (num : ℚ) / den ∧
      (num : ℚ) / den < 2 ^ (53 + lastPlace num den) := by
  obtain ⟨hnumLow, hnumHigh⟩ := bitLength_bounds hnum
  obtain ⟨hdenLow, hdenHigh⟩ := bitLength_bounds hden
  have hpos : (0 : ℚ) < den := by exact_mod_cast Nat.pos_of_ne_zero hden
  unfold lastPlace
  dsimp only
  generalize hguess : (bitLength num : Int) - (bitLength den : Int) - 52 = guess
  -- The numbers of digits leave one place to be decided.
  have hlow : (2 : ℚ) ^ (51 + guess) ≤ (num : ℚ) / den := by
    have hexp : (bitLength num : Int) - 1 = (51 + guess) + bitLength den := by omega
    rw [hexp, zpow_add₀ two_ne_zero] at hnumLow
    rw [le_div_iff₀ hpos]
    calc (2 : ℚ) ^ (51 + guess) * den ≤ 2 ^ (51 + guess) * 2 ^ (bitLength den : Int) :=
          mul_le_mul_of_nonneg_left hdenHigh.le (two_zpow_pos _).le
      _ ≤ num := hnumLow
  have hhigh : (num : ℚ) / den < 2 ^ (53 + guess) := by
    have hexp : (bitLength num : Int) = (53 + guess) + (bitLength den - 1) := by omega
    rw [hexp, zpow_add₀ two_ne_zero] at hnumHigh
    rw [div_lt_iff₀ hpos]
    calc (num : ℚ) < 2 ^ (53 + guess) * 2 ^ ((bitLength den : Int) - 1) := hnumHigh
      _ ≤ 2 ^ (53 + guess) * den := mul_le_mul_of_nonneg_left hdenLow (two_zpow_pos _).le
  have hdecide : (shifted num den (-guess)).1 / (shifted num den (-guess)).2 < Nat.pow 2 52 ↔
      (num : ℚ) / den < 2 ^ (52 + guess) := by
    have hcast : ((Nat.pow 2 52 : Nat) : ℚ) = 2 ^ 52 := by norm_num
    rw [div_lt_iff (shifted_pos (Nat.pos_of_ne_zero hden)), quotient_shifted, hcast, mul_zpow_lt]
    norm_num
  split
  · next hshort =>
    rw [hdecide] at hshort
    have hdown : 52 + (guess - 1) = 51 + guess := by ring
    have hup : 53 + (guess - 1) = 52 + guess := by ring
    rw [hdown, hup]
    exact ⟨hlow, hshort⟩
  · next hlong =>
    rw [hdecide, not_lt] at hlong
    exact ⟨hlong, hhigh⟩

/-! ## Representable numbers -/

/-- The mantissa and the exponent of a positive representable number. -/
structure Representable (m : Nat) (e : Int) : Prop where
  positive : 0 < m
  bound : m < 2 ^ 53
  least : -1074 ≤ e
  most : e ≤ 971
  normal : m < 2 ^ 52 → e = -1074

/-- The number `m * 2 ^ e`. -/
def ofMagnitude (m : Nat) (e : Int) : Binary64 :=
  if m < 2 ^ 52 then ofParts false 0 m else ofParts false (e + 1075).toNat (m - 2 ^ 52)

/-- How far the interval of a number goes down, in units of its last place. -/
def gapBelow (m : Nat) (e : Int) : ℚ :=
  if m = 2 ^ 52 ∧ -1074 < e then 1 / 4 else 1 / 2

/-- The interval of a number. -/
structure RoundsTo (m : Nat) (e : Int) (v : ℚ) : Prop where
  low : (m - gapBelow m e) * 2 ^ e ≤ v
  high : v ≤ (m + 1 / 2) * 2 ^ e
  inside : m % 2 = 1 → (m - gapBelow m e) * 2 ^ e < v ∧ v < (m + 1 / 2) * 2 ^ e

variable {m num den : Nat} {e : Int} {v : ℚ}

theorem gapBelow_le (m : Nat) (e : Int) : gapBelow m e ≤ 1 / 2 := by
  unfold gapBelow
  split <;> norm_num

theorem gapBelow_pos (m : Nat) (e : Int) : 0 < gapBelow m e := by
  unfold gapBelow
  split <;> norm_num

theorem RoundsTo.of_inside (hlow : (m - gapBelow m e) * 2 ^ e < v) (hhigh : v < (m + 1 / 2) * 2 ^ e) :
    RoundsTo m e v :=
  ⟨hlow.le, hhigh.le, fun _ => ⟨hlow, hhigh⟩⟩

theorem RoundsTo.near (h : RoundsTo m e v) : Near (v * 2 ^ (-e)) m := by
  have hpos := two_zpow_pos e
  have hgap := gapBelow_le m e
  obtain ⟨hlow, hhigh, hinside⟩ := h
  rw [zpow_neg, ← div_eq_mul_inv]
  have hwide : ((m : ℚ) - 1 / 2) * 2 ^ e ≤ (m - gapBelow m e) * 2 ^ e :=
    mul_le_mul_of_nonneg_right (by linarith) hpos.le
  refine ⟨?_, ?_, fun hodd => ?_⟩
  · rw [le_div_iff₀ hpos]
    exact hwide.trans hlow
  · rwa [div_le_iff₀ hpos]
  · rw [lt_div_iff₀ hpos, div_lt_iff₀ hpos]
    exact ⟨hwide.trans_lt (hinside hodd).1, (hinside hodd).2⟩

/-- Below a power of two the numbers stand closer together. -/
theorem RoundsTo.near_power (h : RoundsTo (2 ^ 52) e v) (he : -1074 < e) (hbelow : v < 2 ^ (52 + e)) :
    Near (v * 2 ^ (-(e - 1))) (2 ^ 53) := by
  have hpos := two_zpow_pos (e - 1)
  have hdouble : (2 : ℚ) ^ e = 2 * 2 ^ (e - 1) := by
    rw [← zpow_one_add₀ two_ne_zero]
    congr 1
    ring
  have hlow := h.low
  have hgap : gapBelow (2 ^ 52) e = 1 / 4 := if_pos ⟨rfl, he⟩
  rw [hgap, hdouble] at hlow
  have hhigh : v < 2 ^ 53 * 2 ^ (e - 1) := by
    have hexp : (52 : Int) + e = (53 : Nat) + (e - 1) := by ring
    rwa [hexp, zpow_add₀ two_ne_zero, zpow_natCast] at hbelow
  rw [zpow_neg, ← div_eq_mul_inv]
  push_cast at hlow ⊢
  refine ⟨?_, ?_, fun hodd => absurd hodd (by decide)⟩
  · rw [le_div_iff₀ hpos]
    linarith
  · rw [div_le_iff₀ hpos]
    linarith

/-- A fraction is rounded at the unit of the last place of the number it is rounded to, or one place
further down if the number is a power of two and the fraction below it. -/
theorem RoundsTo.unit (hrep : Representable m e) (h : RoundsTo m e v) {u : Int}
    (hlow : (2 : ℚ) ^ (52 + u) ≤ v) (hhigh : v < 2 ^ (53 + u)) :
    max u (-1074) = e ∨ max u (-1074) = e - 1 ∧ m = 2 ^ 52 ∧ v < 2 ^ (52 + e) := by
  have hpos := two_zpow_pos e
  have hsplit : ∀ k : ℕ, (2 : ℚ) ^ ((k : Int) + e) = 2 ^ k * 2 ^ e := fun k => by
    rw [zpow_add₀ two_ne_zero, zpow_natCast]
  have hbound : (m : ℚ) ≤ 2 ^ 53 - 1 := by
    have := hrep.bound
    have hle : m ≤ 2 ^ 53 - 1 := by omega
    have hcast : (m : ℚ) ≤ ((2 ^ 53 - 1 : Nat) : ℚ) := by exact_mod_cast hle
    norm_num at hcast ⊢
    exact hcast
  have hue : u ≤ e := by
    have hv : v < 2 ^ ((53 : Nat) + e) := by
      rw [hsplit]
      refine h.high.trans_lt (mul_lt_mul_of_pos_right ?_ hpos)
      linarith
    have hlt : 52 + u < (53 : Nat) + e := (zpow_lt_zpow_iff_right₀ one_lt_two).1 (hlow.trans_lt hv)
    omega
  by_cases hleast : e = -1074
  · exact Or.inl (by omega)
  have hmid : -1074 < e := by have := hrep.least; omega
  have hnormal : 2 ^ 52 ≤ m := by
    by_contra hsmall
    exact hleast (hrep.normal (by omega))
  -- Below a power of two the numbers stand closer together, so there the unit may be the next smaller one.
  by_cases hpower : m = 2 ^ 52
  · have hgap : gapBelow m e = 1 / 4 := if_pos ⟨hpower, hmid⟩
    have hv : (2 : ℚ) ^ ((51 : Nat) + e) < v := by
      rw [hsplit]
      refine lt_of_lt_of_le (mul_lt_mul_of_pos_right ?_ hpos) h.low
      rw [hgap, hpower]
      norm_num
    have hlt : (51 : Nat) + e < 53 + u := (zpow_lt_zpow_iff_right₀ one_lt_two).1 (hv.trans hhigh)
    rcases (show u = e ∨ u = e - 1 by omega) with rfl | rfl
    · exact Or.inl (by omega)
    · refine Or.inr ⟨by omega, hpower, ?_⟩
      have hexp : 53 + (e - 1) = 52 + e := by ring
      rwa [hexp] at hhigh
  · have hgap : gapBelow m e = 1 / 2 := if_neg fun hand => hpower hand.1
    have hlarge : (2 : ℚ) ^ 52 + 1 ≤ m := by
      have hle : 2 ^ 52 + 1 ≤ m := by omega
      exact_mod_cast hle
    have hv : (2 : ℚ) ^ ((52 : Nat) + e) < v := by
      rw [hsplit]
      refine lt_of_lt_of_le (mul_lt_mul_of_pos_right ?_ hpos) h.low
      rw [hgap]
      linarith
    have hlt : (52 : Nat) + e < 53 + u := (zpow_lt_zpow_iff_right₀ one_lt_two).1 (hv.trans hhigh)
    exact Or.inl (by omega)

/-- Rounding a fraction at a given unit: the mantissa may be carried into the next power of two. -/
def packed (m : Nat) (unit : Int) : Binary64 :=
  let (m, unit) := if m = Nat.pow 2 53 then (Nat.pow 2 52, unit + 1) else (m, unit)
  if m < Nat.pow 2 52 then ofParts false 0 m
  else
    let biased := unit + 1075
    if 2047 ≤ biased then infinity
    else ofParts false biased.toNat (m - Nat.pow 2 52)

theorem ofRatio_eq_packed (hnum : num ≠ 0) (hden : den ≠ 0) :
    ofRatio num den =
      let unit := max (lastPlace num den) (-1074)
      let scaled := shifted num den (-unit)
      packed (roundQuotient scaled.1 scaled.2) unit := by
  have hmax : max den 1 = den := by omega
  unfold ofRatio
  rw [if_neg hnum, hmax]
  rfl

theorem packed_eq (hrep : Representable m e) : packed m e = ofMagnitude m e := by
  have hbound := hrep.bound
  have hmost := hrep.most
  have hcarry : m ≠ Nat.pow 2 53 := by
    rw [Nat.pow_eq]
    omega
  unfold packed ofMagnitude
  rw [if_neg hcarry]
  dsimp only
  rw [Nat.pow_eq]
  split
  · rfl
  · rw [if_neg (by omega)]

theorem packed_carry (hmost : e ≤ 971) : packed (2 ^ 53) (e - 1) = ofMagnitude (2 ^ 52) e := by
  have hexp : e - 1 + 1 = e := by ring
  unfold packed ofMagnitude
  rw [Nat.pow_eq, Nat.pow_eq, if_pos rfl]
  dsimp only
  rw [if_neg (by omega), if_neg (by omega), hexp, if_neg (by omega)]

/-- Fractions in the interval of a number are rounded to it. -/
theorem ofRatio_eq (hrep : Representable m e) (hnum : num ≠ 0) (hden : den ≠ 0)
    (h : RoundsTo m e ((num : ℚ) / den)) : ofRatio num den = ofMagnitude m e := by
  obtain ⟨hlow, hhigh⟩ := lastPlace_bounds hnum hden
  have hrounded : ∀ {unit : Int} {n : Nat}, Near ((num : ℚ) / den * 2 ^ (-unit)) n →
      roundQuotient (shifted num den (-unit)).1 (shifted num den (-unit)).2 = n := by
    intro unit n hnear
    rw [← quotient_shifted] at hnear
    exact roundQuotient_eq (shifted_pos (Nat.pos_of_ne_zero hden)) hnear
  rw [ofRatio_eq_packed hnum hden]
  dsimp only
  rcases h.unit hrep hlow hhigh with hunit | ⟨hunit, rfl, hbelow⟩
  · rw [hunit, hrounded h.near, packed_eq hrep]
  · rw [hunit, hrounded (h.near_power (by omega) hbelow), packed_carry hrep.most]

/-! ## Decimal fractions -/

theorem RoundsTo.pos (hrep : Representable m e) (h : RoundsTo m e v) : (2 : ℚ) ^ (-1075 : Int) ≤ v := by
  have hmantissa : (1 : ℚ) ≤ m := by exact_mod_cast hrep.positive
  have hgap := gapBelow_le m e
  have hexp : (-1075 : Int) = -1 + -1074 := by norm_num
  calc (2 : ℚ) ^ (-1075 : Int) = 1 / 2 * 2 ^ (-1074 : Int) := by
        rw [hexp, zpow_add₀ two_ne_zero]
        norm_num
    _ ≤ 1 / 2 * 2 ^ e := by
        gcongr
        · norm_num
        · exact hrep.least
    _ ≤ (m - gapBelow m e) * 2 ^ e := mul_le_mul_of_nonneg_right (by linarith) (two_zpow_pos e).le
    _ ≤ v := h.low

theorem RoundsTo.lt (hrep : Representable m e) (h : RoundsTo m e v) : v < 2 ^ 1024 := by
  have hmantissa : (m : ℚ) + 1 / 2 < 2 ^ 53 := by
    have hle : (m : ℚ) + 1 ≤ 2 ^ 53 := by exact_mod_cast hrep.bound
    linarith
  calc v ≤ (m + 1 / 2) * 2 ^ e := h.high
    _ < 2 ^ 53 * 2 ^ e := mul_lt_mul_of_pos_right hmantissa (two_zpow_pos e)
    _ ≤ 2 ^ 53 * 2 ^ (971 : Int) := by
        gcongr
        · norm_num
        · exact hrep.most
    _ = 2 ^ (53 + 971) := by rw [pow_add]; rfl
    _ = 2 ^ 1024 := rfl

/-- The number of decimal digits bounds a number on both sides. -/
theorem toDigits_bounds {n : Nat} (hn : n ≠ 0) :
    10 ^ ((Nat.toDigits 10 n).length - 1) ≤ n ∧ n < 10 ^ (Nat.toDigits 10 n).length := by
  have hpos : 0 < (Nat.toDigits 10 n).length := Nat.length_toDigits_pos
  refine ⟨?_, (Nat.length_toDigits_le_iff (by decide) hpos).1 (Nat.le_refl _)⟩
  rcases Nat.lt_or_ge 1 (Nat.toDigits 10 n).length with hmore | hone
  · by_contra hshort
    have hle := (Nat.length_toDigits_le_iff (k := (Nat.toDigits 10 n).length - 1) (by decide) (by omega)).2
      (Nat.lt_of_not_le hshort)
    omega
  · have hexp : (Nat.toDigits 10 n).length - 1 = 0 := by omega
    rw [hexp]
    omega

/-- What is below the powers that are too large has few places. -/
theorem places_le {digits places : Nat} {exponent : Int} (hlow : 10 ^ (places - 1) ≤ digits)
    (hlt : (digits : ℚ) * 10 ^ exponent < 2 ^ 1024) : (places : Int) + exponent ≤ 310 := by
  apply le_of_not_gt
  intro hlarge
  have hdigitsLow : (10 : ℚ) ^ (places - 1) ≤ digits := by exact_mod_cast hlow
  have hcontra : (2 : ℚ) ^ 1024 ≤ digits * 10 ^ exponent :=
    calc (2 : ℚ) ^ 1024 ≤ 10 ^ (310 : Int) := by
          have hpowers : 2 ^ 1024 ≤ 10 ^ 310 := by decide +kernel
          exact_mod_cast hpowers
      _ ≤ 10 ^ (((places - 1 : Nat) : Int) + exponent) :=
          zpow_le_zpow_right₀ (by norm_num) (by omega)
      _ = 10 ^ (places - 1) * 10 ^ exponent := by
          rw [zpow_add₀ (by norm_num), zpow_natCast]
      _ ≤ digits * 10 ^ exponent :=
          mul_le_mul_of_nonneg_right hdigitsLow (ten_zpow_pos exponent).le
  exact absurd hcontra (not_le.2 hlt)

/-- What does not come to nothing has its first place above the powers that do. -/
theorem le_places {digits places : Nat} {exponent : Int} (hhigh : digits < 10 ^ places)
    (hle : (2 : ℚ) ^ (-1075 : Int) ≤ digits * 10 ^ exponent) : -330 ≤ (places : Int) + exponent := by
  apply le_of_not_gt
  intro hsmall
  have hdigitsHigh : (digits : ℚ) < 10 ^ places := by exact_mod_cast hhigh
  have hcontra : digits * 10 ^ exponent < (2 : ℚ) ^ (-1075 : Int) :=
    calc digits * (10 : ℚ) ^ exponent < 10 ^ places * 10 ^ exponent :=
          mul_lt_mul_of_pos_right hdigitsHigh (ten_zpow_pos exponent)
      _ = 10 ^ ((places : Int) + exponent) := by
          rw [zpow_add₀ (by norm_num), zpow_natCast]
      _ ≤ 10 ^ (-331 : Int) := zpow_le_zpow_right₀ (by norm_num) (by omega)
      _ < 2 ^ (-1075 : Int) := by
          have hpowers : 2 ^ 1075 < 10 ^ 331 := by decide +kernel
          rw [zpow_neg, zpow_neg]
          exact inv_strictAnti₀ (by positivity) (by exact_mod_cast hpowers)
  exact absurd hcontra (not_lt.2 hle)

/-- Decimal fractions in the interval of a number are rounded to it. -/
theorem ofDecimal_eq (hrep : Representable m e) {digits : Nat} {exponent : Int}
    (h : RoundsTo m e (digits * 10 ^ exponent)) : ofDecimal digits exponent = ofMagnitude m e := by
  have hpos : (0 : ℚ) < digits * 10 ^ exponent := (two_zpow_pos _).trans_le (h.pos hrep)
  have hdigits : digits ≠ 0 := by
    rintro rfl
    simp at hpos
  obtain ⟨hlow, hhigh⟩ := toDigits_bounds hdigits
  have hplaces : 0 < (Nat.toDigits 10 digits).length := Nat.length_toDigits_pos
  unfold ofDecimal
  dsimp only
  rw [if_neg hdigits]
  generalize (Nat.toDigits 10 digits).length = places at *
  -- Numbers out of range are told by their places, and this is none of them.
  rw [if_neg (not_lt.2 (places_le hlow (h.lt hrep))), if_neg (not_lt.2 (le_places hhigh (h.pos hrep)))]
  split
  · next hwhole =>
    obtain ⟨k, rfl⟩ := Int.eq_ofNat_of_zero_le hwhole
    refine ofRatio_eq hrep (Nat.mul_ne_zero hdigits (Nat.pos_iff_ne_zero.1 (Nat.pow_pos (by decide))))
      (by decide) ?_
    have hcast : ((digits * Nat.pow 10 (k : Int).toNat : Nat) : ℚ) / (1 : Nat) = digits * 10 ^ (k : Int) := by
      push_cast [Nat.pow_eq]
      simp
    rwa [hcast]
  · next hpart =>
    obtain ⟨k, hk⟩ := Int.eq_ofNat_of_zero_le (a := -exponent) (by omega)
    obtain rfl : exponent = -(k : Int) := by omega
    refine ofRatio_eq hrep hdigits (Nat.pos_iff_ne_zero.1 (Nat.pow_pos (by decide))) ?_
    have hcast : (digits : ℚ) / (Nat.pow 10 (- -(k : Int)).toNat : Nat) = digits * 10 ^ (-(k : Int)) := by
      push_cast [Nat.pow_eq]
      simp [div_eq_mul_inv]
    rwa [hcast]

end Binary64
end SqlCells
