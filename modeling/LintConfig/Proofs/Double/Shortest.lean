import LintConfig.Proofs.Double.Rounding

/-!
# The shortest decimal of a double reads back as the double

`shortest` searches grids of rising fineness for a decimal that reads back, and takes the exact
expansion where no grid has one.  In both cases what comes out stands for the double and no other.

* `ofDecimal?_congr`: how a decimal is read depends on its value alone, also where the reader
  decides by the exponent without rounding.
* **`ofDecimal?_shortest`**: the shortest decimal reads back as the double without its sign.
* `abs_eq_of_value_shortest_eq`: doubles that are printed with one value have one magnitude.
-/

namespace LintConfig

namespace Decimal

lemma value_eq (d : Decimal) : d.value = (d.digits : ℚ) * 10 ^ d.exponent := by
  rw [value, Double.power_eq_zpow]
  norm_num

/-! ## The leading digit -/

lemma digitCount_pos (n : ℕ) : 0 < digitCount n := Nat.length_toDigits_pos

lemma lt_pow_digitCount (n : ℕ) : n < 10 ^ digitCount n :=
  (Nat.length_toDigits_le_iff (by norm_num) (digitCount_pos n)).mp le_rfl

lemma pow_digitCount_le {n : ℕ} (hn : n ≠ 0) : 10 ^ (digitCount n - 1) ≤ n := by
  rcases Nat.eq_zero_or_pos (digitCount n - 1) with h | h
  · rw [h, pow_zero]
    exact Nat.pos_of_ne_zero hn
  · by_contra hlt
    have := (Nat.length_toDigits_le_iff (by norm_num) h).mpr (not_le.mp hlt)
    rw [← digitCount] at this
    omega

/-- Where the leading digit of a decimal stands is said by its value alone. -/
lemma exponent_add_digitCount {d : Decimal} (hd : d.digits ≠ 0) :
    d.exponent + digitCount d.digits = Int.log 10 d.value + 1 := by
  have hpos : (0 : ℚ) < d.value := by
    rw [value_eq]
    positivity
  have hcount := digitCount_pos d.digits
  have hlow : ((10 : ℕ) : ℚ) ^ (((digitCount d.digits - 1 : ℕ) : ℤ) + d.exponent) ≤ d.value := by
    rw [value_eq, zpow_add₀ (by norm_num), zpow_natCast]
    push_cast
    gcongr
    exact_mod_cast pow_digitCount_le hd
  have hhigh : d.value < ((10 : ℕ) : ℚ) ^ ((digitCount d.digits : ℤ) + d.exponent) := by
    rw [value_eq, zpow_add₀ (by norm_num), zpow_natCast]
    push_cast
    gcongr
    exact_mod_cast lt_pow_digitCount d.digits
  rw [Int.zpow_le_iff_le_log (by norm_num) hpos] at hlow
  rw [Int.lt_zpow_iff_log_lt (by norm_num) hpos] at hhigh
  omega

lemma value_dropTrailingZeros (fuel : ℕ) (d : Decimal) :
    (d.dropTrailingZeros fuel).value = d.value := by
  induction fuel generalizing d with
  | zero => rfl
  | succ fuel ih =>
      rw [dropTrailingZeros]
      split_ifs with h
      · rw [ih, value_eq, value_eq, zpow_add₀ (by norm_num), zpow_one]
        have hdigits : (d.digits : ℚ) = (d.digits / 10 : ℕ) * 10 := by
          exact_mod_cast (Nat.div_mul_cancel (Nat.dvd_of_mod_eq_zero h.2)).symm
        rw [hdigits]
        push_cast
        ring
      · rfl

end Decimal

namespace Double

open Decimal (digitCount)

/-! ## Reading depends on the value alone -/

lemma digits_eq_zero_iff (d : Decimal) : d.digits = 0 ↔ d.value = 0 := by
  rw [Decimal.value_eq, mul_eq_zero, or_iff_left (by positivity), Nat.cast_eq_zero]

/-- What a decimal reads as, in terms of its value. -/
lemma ofDecimal?_eq (negative : Bool) (d : Decimal) :
    ofDecimal? negative d
      = if d.value = 0 ∨ Int.log 10 d.value < -331 then some (zero negative)
        else if 309 < Int.log 10 d.value then none
        else nearest? negative d.value := by
  rw [ofDecimal?]
  by_cases hd : d.digits = 0
  · simp [hd, (digits_eq_zero_iff d).mp hd]
  · have hv : d.value ≠ 0 := fun h => hd ((digits_eq_zero_iff d).mpr h)
    have hlow : Int.log 10 d.value + 1 < -330 ↔ Int.log 10 d.value < -331 := by omega
    have hhigh : 310 < Int.log 10 d.value + 1 ↔ 309 < Int.log 10 d.value := by omega
    simp only [Decimal.exponent_add_digitCount hd, hd, hv, false_or, hlow, hhigh]

theorem ofDecimal?_congr {s t : Decimal} (h : s.value = t.value) (negative : Bool) :
    ofDecimal? negative s = ofDecimal? negative t := by
  rw [ofDecimal?_eq, ofDecimal?_eq, h]

lemma ten_zpow_le_least : ((10 : ℕ) : ℚ) ^ (-331 : ℤ) ≤ 2 ^ (-1074 : ℤ) := by
  have h : (2 : ℕ) ^ 1074 ≤ 10 ^ 331 := by decide +kernel
  rw [zpow_neg, zpow_neg, zpow_ofNat, zpow_ofNat]
  refine inv_anti₀ (by positivity) ?_
  exact_mod_cast h

lemma greatest_lt_ten_zpow :
    (0x20000000000000 : ℚ) * 2 ^ (971 : ℤ) < ((10 : ℕ) : ℚ) ^ (310 : ℤ) := by
  have h : 0x20000000000000 * (2 : ℕ) ^ 971 < 10 ^ 310 := by decide +kernel
  rw [zpow_ofNat, zpow_ofNat]
  exact_mod_cast h

/-- The magnitudes of doubles stay far away from where a decimal is decided by its exponent. -/
lemma log_magnitude_bounds {d : Double} (hd : d.significand ≠ 0) :
    -331 ≤ Int.log 10 d.magnitude ∧ Int.log 10 d.magnitude ≤ 309 := by
  obtain ⟨hlt, hmin, hmax, -⟩ := d.canonical
  have hpos : (0 : ℚ) < d.magnitude := by
    rw [magnitude_eq]
    positivity
  have hlow : ((10 : ℕ) : ℚ) ^ (-331 : ℤ) ≤ d.magnitude := by
    calc ((10 : ℕ) : ℚ) ^ (-331 : ℤ) ≤ 2 ^ (-1074 : ℤ) := ten_zpow_le_least
      _ ≤ 2 ^ d.exponent := zpow_le_zpow_right₀ (by norm_num) hmin
      _ ≤ d.significand * 2 ^ d.exponent := by
          refine le_mul_of_one_le_left (by positivity) ?_
          exact_mod_cast Nat.one_le_iff_ne_zero.mpr hd
      _ = d.magnitude := (magnitude_eq d).symm
  have hhigh : d.magnitude < ((10 : ℕ) : ℚ) ^ (310 : ℤ) := by
    have hsig : (d.significand : ℚ) ≤ 0x20000000000000 := by exact_mod_cast hlt.le
    calc d.magnitude = d.significand * 2 ^ d.exponent := magnitude_eq d
      _ ≤ 0x20000000000000 * 2 ^ (971 : ℤ) := by
          gcongr
          norm_num
      _ < ((10 : ℕ) : ℚ) ^ (310 : ℤ) := greatest_lt_ten_zpow
  rw [Int.zpow_le_iff_le_log (by norm_num) hpos] at hlow
  rw [Int.lt_zpow_iff_log_lt (by norm_num) hpos] at hhigh
  omega

/-- A decimal with the exact value of a double reads as that double. -/
lemma ofDecimal?_of_value_eq {s : Decimal} {d : Double} (hd : d.significand ≠ 0)
    (h : s.value = d.magnitude) : ofDecimal? false s = some d.abs := by
  obtain ⟨hlow, hhigh⟩ := log_magnitude_bounds hd
  have hne : d.magnitude ≠ 0 := by
    rw [magnitude_eq]
    positivity
  rw [ofDecimal?_eq, h, if_neg (by simp [hne]; omega), if_neg (by omega), nearest?_magnitude]

/-! ## The shortest decimal -/

/-- Every decimal that the search on a grid can find reads back as the double. -/
lemma ofDecimal?_of_onGrid? {d : Double} {count : ℕ} {s : Decimal} (h : d.onGrid? count = some s) :
    ofDecimal? false s = some d.abs := by
  simp only [onGrid?] at h
  split at h
  case h_1 hlow hhigh =>
    split_ifs at h
    · exact (Option.some.inj h) ▸ of_decide_eq_true hlow
    · exact (Option.some.inj h) ▸ of_decide_eq_true hhigh
  case h_2 hlow _ => exact (Option.some.inj h) ▸ of_decide_eq_true hlow
  case h_3 _ hhigh => exact (Option.some.inj h) ▸ of_decide_eq_true hhigh
  case h_4 => exact absurd h (by simp)

lemma value_expansion (d : Double) : d.expansion.value = d.magnitude := by
  rw [magnitude_eq, Decimal.value_eq, expansion]
  split_ifs with h
  · -- five and two make up ten, so the digits for a negative exponent are whole
    obtain ⟨n, hn⟩ : ∃ n : ℕ, d.exponent = -n := ⟨(-d.exponent).toNat, by omega⟩
    have hten : (10 : ℚ) ^ n = 5 ^ n * 2 ^ n := by rw [← mul_pow]; norm_num
    simp only [hn, neg_neg, Int.toNat_natCast, Nat.pow_eq, Nat.cast_mul, Nat.cast_pow,
      Nat.cast_ofNat, zpow_neg, zpow_natCast, hten]
    field_simp
  · obtain ⟨n, hn⟩ : ∃ n : ℕ, d.exponent = n := ⟨d.exponent.toNat, by omega⟩
    simp only [hn, Int.toNat_natCast, Nat.shiftLeft_eq, Nat.cast_mul, Nat.cast_pow, Nat.cast_ofNat,
      zpow_zero, mul_one, zpow_natCast]

lemma abs_eq_zero {d : Double} (hd : d.significand = 0) : d.abs = zero false := by
  obtain ⟨negative, significand, exponent, hcanonical⟩ := d
  simp only at hd
  subst hd
  have hexp : exponent = -1074 := hcanonical.2.2.2.resolve_left (by norm_num)
  subst hexp
  rfl

/-- **What is printed of a double reads back as the double.** -/
theorem ofDecimal?_shortest (d : Double) : ofDecimal? false d.shortest = some d.abs := by
  rw [shortest]
  by_cases hd : d.significand = 0
  · have hz : d.isZero = true := by simp [isZero, hd]
    rw [if_pos hz, abs_eq_zero hd]
    rfl
  · have hz : ¬ d.isZero = true := by simp [isZero, hd]
    simp only [if_neg hz]
    rw [ofDecimal?_congr (Decimal.value_dropTrailingZeros _ _)]
    cases hfound : (List.range' 1 17).findSome? d.onGrid? with
    | none => exact ofDecimal?_of_value_eq hd d.value_expansion
    | some s =>
        obtain ⟨count, -, hcount⟩ := List.exists_of_findSome?_eq_some hfound
        exact ofDecimal?_of_onGrid? hcount

/-- The value that is printed determines the magnitude. -/
lemma abs_eq_of_value_shortest_eq {d e : Double} (h : d.shortest.value = e.shortest.value) :
    d.abs = e.abs := by
  have hd := d.ofDecimal?_shortest
  rw [ofDecimal?_congr h, e.ofDecimal?_shortest] at hd
  exact (Option.some.inj hd).symm

end Double

end LintConfig
