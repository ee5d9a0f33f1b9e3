import SqlCells.Number.Integer
import SqlCells.Proofs.Lists
import SqlCells.Proofs.Number.Shortest

/-!
# Numbers read back from their texts

The text of a number is a sign and a numeral: digits, or digits on both sides of a point.  A numeral is
read as a decimal fraction, which is rounded back to the number that was written.
-/

namespace SqlCells

open Binary64

/-- The texts of digits, with a point among them or without, and the decimal fractions they stand for. -/
inductive Numeral : List Char → Decimal → Prop
  | whole {ds : List Char} (hne : ds ≠ []) (hdigits : ∀ c ∈ ds, c.isDigit = true) :
      Numeral ds ⟨digitsValue ds, 0⟩
  | point {ds frac : List Char} (hne : ds ≠ []) (hdigits : ∀ c ∈ ds, c.isDigit = true)
      (hfrac : ∀ c ∈ frac, c.isDigit = true) :
      Numeral (ds ++ '.' :: frac) ⟨digitsValue (ds ++ frac), -frac.length⟩

/-! ## Digits -/

theorem digitsValue_eq (ds : List Char) : digitsValue ds = Nat.ofDigitChars 10 ds 0 := by
  unfold digitsValue
  rw [Nat.ofDigitChars_eq_foldl]
  simp only [Nat.mul_comm]

theorem digitsValue_toDigits (n : Nat) : digitsValue (Nat.toDigits 10 n) = n := by
  rw [digitsValue_eq, Nat.ofDigitChars_ten_toDigits]

/-- Zeros behind digits are a power of ten. -/
theorem digitsValue_append_zeros (ds : List Char) (k : Nat) :
    digitsValue (ds ++ List.replicate k '0') = digitsValue ds * 10 ^ k := by
  rw [digitsValue_eq, digitsValue_eq, Nat.ofDigitChars_append, Nat.ofDigitChars_replicate_zero, Nat.mul_comm]

/-- Zeros in front of digits count for nothing. -/
theorem digitsValue_zeros_append (k : Nat) (ds : List Char) :
    digitsValue (List.replicate k '0' ++ ds) = digitsValue ds := by
  rw [digitsValue_eq, digitsValue_eq, Nat.ofDigitChars_append, Nat.ofDigitChars_replicate_zero, Nat.mul_zero]

theorem isDigit_of_mem_toDigits {n : Nat} {c : Char} (hc : c ∈ Nat.toDigits 10 n) : c.isDigit = true :=
  Nat.isDigit_of_mem_toDigits (by decide) (by decide) hc

theorem isDigit_of_mem_zeros {k : Nat} {c : Char} (hc : c ∈ List.replicate k '0') : c.isDigit = true := by
  rw [List.eq_of_mem_replicate hc]
  rfl

namespace Numeral

variable {s : List Char} {d : Decimal}

theorem exists_cons (h : Numeral s d) : ∃ c rest, s = c :: rest ∧ c.isDigit = true := by
  have hcons : ∀ {ds : List Char} (t : List Char), ds ≠ [] → (∀ c ∈ ds, c.isDigit = true) →
      ∃ c rest, ds ++ t = c :: rest ∧ c.isDigit = true := by
    intro ds t hne hdigits
    cases ds with
    | nil => exact absurd rfl hne
    | cons c ds => exact ⟨c, ds ++ t, rfl, hdigits c List.mem_cons_self⟩
  cases h with
  | whole hne hdigits => simpa using hcons [] hne hdigits
  | point hne hdigits hfrac => exact hcons _ hne hdigits

theorem readDigits? (h : Numeral s d) : Binary64.readDigits? s = some (ofDecimal d.digits d.exponent) := by
  cases h with
  | @whole ds hne hdigits =>
    have htake := takeWhile_append_of_head? (t := []) hdigits (by simp)
    have hdrop := dropWhile_append_of_head? (t := []) hdigits (by simp)
    rw [List.append_nil] at htake hdrop
    simp [Binary64.readDigits?, htake, hdrop, hne]
  | @point ds frac hne hdigits hfrac =>
    have hstop : ∀ c ∈ ('.' :: frac).head?, c.isDigit = false := by
      intro c hc
      cases hc
      rfl
    have htake := takeWhile_append_of_head? hdigits hstop
    have hdrop := dropWhile_append_of_head? hdigits hstop
    have htake' := takeWhile_append_of_head? (t := []) hfrac (by simp)
    have hdrop' := dropWhile_append_of_head? (t := []) hfrac (by simp)
    rw [List.append_nil] at htake' hdrop'
    simp [Binary64.readDigits?, htake, hdrop, htake', hdrop', hne]

end Numeral

/-- Without an exponent part digits are written as a numeral, in which the point stands for the power of
ten. -/
theorem Decimal.exists_numeral (d : Decimal) :
    ∃ d' : Decimal, Numeral d.positional d' ∧ d'.value = d.value := by
  have hne : Nat.toDigits 10 d.digits ≠ [] := Nat.toDigits_ne_nil
  have hdigits : ∀ c ∈ Nat.toDigits 10 d.digits, c.isDigit = true := fun c hc => isDigit_of_mem_toDigits hc
  have hvalue := digitsValue_toDigits d.digits
  unfold positional point
  generalize Nat.toDigits 10 d.digits = ds at hne hdigits hvalue
  dsimp only
  split
  · next hwhole =>
    obtain ⟨k, hk⟩ := Int.eq_ofNat_of_zero_le hwhole
    refine ⟨_, .whole (by simp [hne]) ?_, ?_⟩
    · intro c hc
      rcases List.mem_append.1 hc with hc | hc
      · exact hdigits c hc
      · exact isDigit_of_mem_zeros hc
    · rw [digitsValue_append_zeros, hvalue, hk]
      simp [value, hk]
  · next hpart =>
    split
    · next hpoint =>
      -- Some of the digits stand behind the point.
      have hsplit : ds.take ((ds.length : Int) + d.exponent).toNat ++
          ds.drop ((ds.length : Int) + d.exponent).toNat = ds := List.take_append_drop _ _
      have hlength : ((ds.drop ((ds.length : Int) + d.exponent).toNat).length : Int) = -d.exponent := by
        rw [List.length_drop]
        omega
      refine ⟨_, .point ?_ (fun c hc => hdigits c (List.mem_of_mem_take hc))
        (fun c hc => hdigits c (List.mem_of_mem_drop hc)), ?_⟩
      · intro hnil
        have := congrArg List.length hnil
        rw [List.length_take, List.length_nil] at this
        omega
      · rw [hsplit, hvalue, hlength, neg_neg]
    · next hpoint =>
      generalize hk : (-((ds.length : Int) + d.exponent)).toNat = k
      have hlength : ((List.replicate k '0' ++ ds).length : Int) = -d.exponent := by
        rw [List.length_append, List.length_replicate]
        omega
      have hzeros : digitsValue (['0'] ++ (List.replicate k '0' ++ ds)) = d.digits := by
        rw [← List.append_assoc, ← List.replicate_one, ← List.replicate_add, digitsValue_zeros_append, hvalue]
      have hnumeral : Numeral (['0'] ++ '.' :: (List.replicate k '0' ++ ds))
          ⟨digitsValue (['0'] ++ (List.replicate k '0' ++ ds)),
            -((List.replicate k '0' ++ ds).length : Nat)⟩ := by
        refine .point (by simp) (fun c hc => isDigit_of_mem_zeros (k := 1) hc) fun c hc => ?_
        rcases List.mem_append.1 hc with hc | hc
        · exact isDigit_of_mem_zeros hc
        · exact hdigits c hc
      rw [hzeros, hlength, neg_neg] at hnumeral
      exact ⟨_, hnumeral, rfl⟩

/-! ## Whole numbers -/

namespace Number

theorem readDigits?_toDigits (n : Nat) : readDigits? (Nat.toDigits 10 n) = some n := by
  have hvalue := digitsValue_toDigits n
  unfold digitsValue at hvalue
  have hall : (Nat.toDigits 10 n).all Char.isDigit = true :=
    List.all_eq_true.2 fun c hc => isDigit_of_mem_toDigits hc
  have hne : (Nat.toDigits 10 n).isEmpty = false := by simp [Nat.toDigits_ne_nil]
  unfold readDigits?
  rw [hne, hall, hvalue]
  rfl

theorem int64?_toInt (i : Int64) : int64? i.toInt = some i := by
  have hlow : Int64.minValue.toInt ≤ i.toInt := Int64.minValue_le_toInt i
  have hhigh : i.toInt ≤ Int64.maxValue.toInt := Int64.toInt_le i
  unfold int64?
  rw [if_pos ⟨hlow, hhigh⟩, Int64.ofInt_toInt]

theorem numeral_decimal (n : Nat) : Numeral (Text.decimal n) ⟨n, 0⟩ := by
  have hnumeral : Numeral (Text.decimal n) _ :=
    .whole Nat.toDigits_ne_nil fun c hc => isDigit_of_mem_toDigits hc
  rwa [Text.decimal, digitsValue_toDigits] at hnumeral

/-- A signed number is read back from its text. -/
theorem readInt64?_integer (i : Int64) : readInt64? (integer i.toInt) = some i := by
  have hread := readDigits?_toDigits i.toInt.natAbs
  unfold integer Text.decimal
  split
  · next hnegative =>
    have habs : -(i.toInt.natAbs : Int) = i.toInt := by omega
    rw [readInt64?, hread]
    change int64? (-(i.toInt.natAbs : Int)) = some i
    rw [habs, int64?_toInt]
  · next hnonnegative =>
    have habs : (i.toInt.natAbs : Int) = i.toInt := by omega
    obtain ⟨c, rest, hcons, hc⟩ := (numeral_decimal i.toInt.natAbs).exists_cons
    rw [Text.decimal] at hcons
    have hminus : c ≠ '-' := by rintro rfl; cases hc
    have hplus : c ≠ '+' := by rintro rfl; cases hc
    rw [hcons] at hread ⊢
    unfold readInt64?
    split
    · next heq => exact absurd (List.cons.inj heq).1 hminus
    · next heq => exact absurd (List.cons.inj heq).1 hplus
    · rw [hread]
      change int64? (i.toInt.natAbs : Int) = some i
      rw [habs, int64?_toInt]

end Number

/-! ## Double-precision numbers -/

namespace Binary64

variable {x : Binary64} {m : Nat} {e : Int}

theorem biasedExponent_lt (x : Binary64) : x.biasedExponent < 2048 :=
  Nat.mod_lt _ (by decide)

theorem fraction_lt (x : Binary64) : x.fraction < 2 ^ 52 :=
  Nat.mod_lt _ (by decide)

theorem toNat_bits_ofParts (negative : Bool) {biased fraction : Nat} (hbiased : biased < 2048)
    (hfraction : fraction < 2 ^ 52) : (ofParts negative biased fraction).bits.toNat =
      (if negative then 2 ^ 63 else 0) + biased * 2 ^ 52 + fraction := by
  unfold ofParts
  rw [UInt64.toNat_ofNat', Nat.pow_eq, Nat.pow_eq]
  apply Nat.mod_eq_of_lt
  split <;> omega

theorem biasedExponent_ofParts (negative : Bool) {biased fraction : Nat} (hbiased : biased < 2048)
    (hfraction : fraction < 2 ^ 52) : (ofParts negative biased fraction).biasedExponent = biased := by
  unfold biasedExponent
  rw [toNat_bits_ofParts negative hbiased hfraction, Nat.pow_eq, Nat.pow_eq]
  split <;> omega

theorem fraction_ofParts (negative : Bool) {biased fraction : Nat} (hbiased : biased < 2048)
    (hfraction : fraction < 2 ^ 52) : (ofParts negative biased fraction).fraction = fraction := by
  unfold Binary64.fraction
  rw [toNat_bits_ofParts negative hbiased hfraction, Nat.pow_eq]
  split <;> omega

/-- The bits are those of sign, exponent and fraction. -/
theorem ofParts_parts (x : Binary64) : ofParts x.isNegative x.biasedExponent x.fraction = x := by
  have hbits : (ofParts x.isNegative x.biasedExponent x.fraction).bits = x.bits := by
    apply UInt64.toNat_inj.1
    rw [toNat_bits_ofParts _ x.biasedExponent_lt x.fraction_lt]
    have hlt : x.bits.toNat < 2 ^ 64 := x.bits.toNat_lt
    unfold isNegative biasedExponent Binary64.fraction
    rw [Nat.pow_eq, Nat.pow_eq, Nat.pow_eq]
    by_cases hnegative : 2 ^ 63 ≤ x.bits.toNat
    · rw [if_pos (decide_eq_true hnegative)]
      omega
    · rw [if_neg (by simpa using hnegative)]
      omega
  cases x
  exact congrArg Binary64.mk hbits

/-- What a finite number stands for is zero or representable, and gives its bits back with the sign. -/
theorem withSign_ofMagnitude (hmagnitude : x.magnitude = .finite m e) :
    (m = 0 ∨ Representable m e) ∧ withSign x.isNegative (ofMagnitude m e) = x := by
  have hbiased := x.biasedExponent_lt
  have hfraction := x.fraction_lt
  have hparts := x.ofParts_parts
  unfold magnitude at hmagnitude
  unfold withSign
  split at hmagnitude
  · split at hmagnitude <;> cases hmagnitude
  · next hfinite =>
    split at hmagnitude
    · next hzero =>
      cases hmagnitude
      have hpacked : ofMagnitude x.fraction (-1074) = ofParts false x.biasedExponent x.fraction := by
        rw [ofMagnitude, if_pos hfraction, hzero]
      refine ⟨?_, ?_⟩
      · by_cases hnone : x.fraction = 0
        · exact Or.inl hnone
        · exact Or.inr ⟨by omega, by omega, by omega, by omega, fun _ => rfl⟩
      · rw [hpacked, biasedExponent_ofParts false hbiased hfraction, fraction_ofParts false hbiased hfraction,
          hparts]
    · next hnormal =>
      cases hmagnitude
      have hexp : ((x.biasedExponent : Int) - 1075 + 1075).toNat = x.biasedExponent := by omega
      have hmantissa : Nat.pow 2 52 + x.fraction - 2 ^ 52 = x.fraction := by
        rw [Nat.pow_eq]
        omega
      have hlarge : ¬ Nat.pow 2 52 + x.fraction < 2 ^ 52 := by
        rw [Nat.pow_eq]
        omega
      have hpacked : ofMagnitude (Nat.pow 2 52 + x.fraction) ((x.biasedExponent : Int) - 1075) =
          ofParts false x.biasedExponent x.fraction := by
        rw [ofMagnitude, if_neg hlarge, hexp, hmantissa]
      rw [hpacked, biasedExponent_ofParts false hbiased hfraction, fraction_ofParts false hbiased hfraction,
        hparts]
      rw [Nat.pow_eq]
      exact ⟨Or.inr ⟨by omega, by omega, by omega, by omega, fun hsmall => by omega⟩, rfl⟩

theorem exists_magnitude (hfinite : x.isFinite = true) : ∃ m e, x.magnitude = .finite m e := by
  have hbiased : x.biasedExponent ≠ 2047 := of_decide_eq_true hfinite
  unfold magnitude
  rw [if_neg hbiased]
  split
  · exact ⟨_, _, rfl⟩
  · exact ⟨_, _, rfl⟩

/-- The digits that a number is written with are read back as the number, its sign aside. -/
theorem ofDecimal_shortest (hmagnitude : m = 0 ∨ Representable m e) {d : Decimal}
    (hvalue : d.value = (Decimal.shortest m e).value) :
    ofDecimal d.digits d.exponent = ofMagnitude m e := by
  rcases hmagnitude with rfl | hrep
  · have hzero : d.digits = 0 := by
      have hshortest : (Decimal.shortest 0 e).value = 0 := by simp [Decimal.shortest, Decimal.value]
      rw [hshortest, Decimal.value, mul_eq_zero] at hvalue
      exact_mod_cast hvalue.resolve_right (Binary64.ten_zpow_pos d.exponent).ne'
    unfold ofDecimal ofMagnitude
    rw [if_pos hzero, if_pos (by decide)]
    rfl
  · have hrounds := Decimal.shortest_roundsTo hrep
    rw [← hvalue] at hrounds
    exact ofDecimal_eq hrep hrounds

theorem toLower_of_isDigit {c : Char} (hc : c.isDigit = true) : c.toLower = c := by
  have hbounds : c.val ≥ 48 ∧ c.val ≤ 57 := by simpa [Char.isDigit] using hc
  unfold Char.toLower
  split
  · next hupper =>
    have hlow : 65 ≤ c.val.toNat := UInt32.le_iff_toNat_le.1 hupper.1
    have hhigh : c.val.toNat ≤ 57 := UInt32.le_iff_toNat_le.1 hbounds.2
    omega
  · rfl

/-- A text that starts with a digit is no name of a number. -/
theorem ofList_map_toLower_ne {c d : Char} (hc : c.isDigit = true) (hd : d.isDigit = false)
    (rest : List Char) {name : String} (hname : name.toList.head? = some d) :
    String.ofList ((c :: rest).map Char.toLower) ≠ name := by
  rintro rfl
  simp only [List.map_cons, String.toList_ofList, List.head?_cons, Option.some.injEq,
    toLower_of_isDigit hc] at hname
  rw [hname, hd] at hc
  cases hc

/-- The text of a finite number is a sign and a numeral, and is read back as the number. -/
theorem read?_plainText (hfinite : x.isFinite = true) :
    ∃ body d, Numeral body d ∧ x.plainText = (if x.isNegative then '-' :: body else body) ∧
      read? x.plainText = some x := by
  obtain ⟨m, e, hmagnitude⟩ := exists_magnitude hfinite
  obtain ⟨hrep, hback⟩ := withSign_ofMagnitude hmagnitude
  obtain ⟨d, hnumeral, hvalue⟩ := (Decimal.shortest m e).exists_numeral
  have htext : x.plainText = if x.isNegative then '-' :: (Decimal.shortest m e).positional
      else (Decimal.shortest m e).positional := by
    unfold plainText layout
    rw [hmagnitude]
  refine ⟨_, d, hnumeral, htext, ?_⟩
  rw [htext]
  generalize (Decimal.shortest m e).positional = body at hnumeral
  obtain ⟨c, rest, rfl, hc⟩ := hnumeral.exists_cons
  have hsign : takeSign (if x.isNegative then '-' :: c :: rest else c :: rest) =
      (x.isNegative, c :: rest) := by
    have hminus : c ≠ '-' := by rintro rfl; cases hc
    have hplus : c ≠ '+' := by rintro rfl; cases hc
    cases x.isNegative with
    | true => rfl
    | false =>
      simp only [Bool.false_eq_true, if_false]
      unfold takeSign
      split
      · next heq => exact absurd (List.cons.inj heq).1 hminus
      · next heq => exact absurd (List.cons.inj heq).1 hplus
      · rfl
  unfold read?
  rw [hsign]
  dsimp only
  split
  · next hname => exact absurd hname (ofList_map_toLower_ne (d := 'i') hc rfl rest rfl)
  · next hname => exact absurd hname (ofList_map_toLower_ne (d := 'i') hc rfl rest rfl)
  · next hname => exact absurd hname (ofList_map_toLower_ne (d := 'n') hc rfl rest rfl)
  · rw [hnumeral.readDigits?, ofDecimal_shortest hrep hvalue, Option.map_some, hback]

end Binary64
end SqlCells
