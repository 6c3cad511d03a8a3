import Mathlib
import LintConfig.Double.Decimal

/-!
# A double is the double nearest to its own value

Reading and printing both go through `nearest?`, so nothing can be said about either before it is
known that rounding leaves the doubles alone.

* `floorLog2_eq`: the quick estimate from the lengths of numerator and denominator is the logarithm.
* `roundParts_eq`: a quotient that is a double already keeps its significand and exponent.
* **`nearest?_magnitude`**: a double is the double nearest to its magnitude, and
  **`exists_ofInt?_eq`**: an integer of at most 53 binary digits is a double.
* **`two_zpow_le_magnitude_of_nearest?`**: rounding never takes a quotient below a power of two.

`Int.log` and `zpow` take the place of the library's own powers and shifts here, since Mathlib has
their theory; `power_eq_zpow` and `two_zpow_eq_div` are the two bridges.
-/

namespace LintConfig

namespace Double

/-! ## Powers and shifts -/

lemma power_eq_zpow (base : ℕ) (e : ℤ) : power base e = (base : ℚ) ^ e := by
  unfold power
  split_ifs with h
  · obtain ⟨n, rfl⟩ : ∃ n : ℕ, e = -n := ⟨(-e).toNat, by omega⟩
    simp [Nat.pow_eq]
  · obtain ⟨n, rfl⟩ : ∃ n : ℕ, e = n := ⟨e.toNat, by omega⟩
    simp [Nat.pow_eq]

/-- An integer power of two as a quotient of two natural ones, only one of which is not 1.  Shifts
write their exponents in this way. -/
lemma two_zpow_eq_div (e : ℤ) : (2 : ℚ) ^ e = 2 ^ e.toNat / 2 ^ (-e).toNat := by
  have he : e = (e.toNat : ℤ) - ((-e).toNat : ℤ) := by omega
  conv_lhs => rw [he]
  rw [zpow_sub₀ (by norm_num), zpow_natCast, zpow_natCast]

lemma shiftLeft_lt_iff {a b : ℕ} (hb : 0 < b) (k : ℤ) :
    a <<< (-k).toNat < b <<< k.toNat ↔ (a : ℚ) / b < 2 ^ k := by
  have hbq : (0 : ℚ) < b := by exact_mod_cast hb
  rw [two_zpow_eq_div, div_lt_div_iff₀ hbq (by positivity), Nat.shiftLeft_eq, Nat.shiftLeft_eq,
    mul_comm b]
  exact_mod_cast Iff.rfl

lemma shiftLeft_eq_mul_of_div_eq {a b m : ℕ} (hb : 0 < b) {e : ℤ}
    (h : (a : ℚ) / b = m * 2 ^ e) : a <<< (-e).toNat = m * b <<< e.toNat := by
  have hbq : (b : ℚ) ≠ 0 := by exact_mod_cast hb.ne'
  have hpow : (2 : ℚ) ^ (-e).toNat ≠ 0 := by positivity
  rw [two_zpow_eq_div, ← mul_div_assoc, div_eq_div_iff hbq hpow] at h
  rw [Nat.shiftLeft_eq, Nat.shiftLeft_eq]
  have h' : a * 2 ^ (-e).toNat = m * 2 ^ e.toNat * b := by exact_mod_cast h
  rw [h']
  ring

/-! ## The binary logarithm of a quotient -/

lemma two_zpow_le_iff {q : ℚ} (hq : 0 < q) (k : ℤ) : (2 : ℚ) ^ k ≤ q ↔ k ≤ Int.log 2 q := by
  exact_mod_cast Int.zpow_le_iff_le_log (b := 2) (x := k) (by norm_num) hq

lemma lt_two_zpow_iff {q : ℚ} (hq : 0 < q) (k : ℤ) : q < (2 : ℚ) ^ k ↔ Int.log 2 q < k := by
  exact_mod_cast Int.lt_zpow_iff_log_lt (b := 2) (x := k) (by norm_num) hq

/-- The lengths of numerator and denominator give the logarithm of the quotient up to one. -/
lemma log2_sub_log2_bounds {a b : ℕ} (ha : 0 < a) (hb : 0 < b) :
    (2 : ℚ) ^ ((a.log2 : ℤ) - b.log2 - 1) ≤ a / b
      ∧ (a / b : ℚ) < 2 ^ ((a.log2 : ℤ) - b.log2 + 1) := by
  have hbq : (0 : ℚ) < b := by exact_mod_cast hb
  have ha1 : (2 : ℚ) ^ a.log2 ≤ a := by exact_mod_cast Nat.log2_self_le ha.ne'
  have ha2 : (a : ℚ) < 2 ^ (a.log2 + 1) := by exact_mod_cast Nat.lt_log2_self
  have hb1 : (2 : ℚ) ^ b.log2 ≤ b := by exact_mod_cast Nat.log2_self_le hb.ne'
  have hb2 : (b : ℚ) < 2 ^ (b.log2 + 1) := by exact_mod_cast Nat.lt_log2_self
  have e1 : (2 : ℚ) ^ ((a.log2 : ℤ) - b.log2 - 1) = 2 ^ a.log2 / 2 ^ (b.log2 + 1) := by
    rw [show ((a.log2 : ℤ) - b.log2 - 1) = (a.log2 : ℤ) - ((b.log2 + 1 : ℕ) : ℤ) by
      push_cast; ring, zpow_sub₀ (by norm_num), zpow_natCast, zpow_natCast]
  have e2 : (2 : ℚ) ^ ((a.log2 : ℤ) - b.log2 + 1) = 2 ^ (a.log2 + 1) / 2 ^ b.log2 := by
    rw [show ((a.log2 : ℤ) - b.log2 + 1) = ((a.log2 + 1 : ℕ) : ℤ) - (b.log2 : ℤ) by
      push_cast; ring, zpow_sub₀ (by norm_num), zpow_natCast, zpow_natCast]
  rw [e1, e2]
  constructor
  · gcongr
  · gcongr

/-- The estimate and its one correction are the logarithm of the quotient. -/
lemma floorLog2_eq {a b : ℕ} (ha : 0 < a) (hb : 0 < b) :
    floorLog2 a b = Int.log 2 ((a : ℚ) / b) := by
  have hq : (0 : ℚ) < (a : ℚ) / b := by positivity
  obtain ⟨hlow, hhigh⟩ := log2_sub_log2_bounds ha hb
  rw [two_zpow_le_iff hq] at hlow
  rw [lt_two_zpow_iff hq] at hhigh
  simp only [floorLog2]
  split_ifs with h
  · rw [shiftLeft_lt_iff hb, lt_two_zpow_iff hq] at h
    omega
  · rw [shiftLeft_lt_iff hb, not_lt, two_zpow_le_iff hq] at h
    omega

/-- The logarithm of a scaled natural number is its length and the scale. -/
lemma log_mul_zpow {m : ℕ} (hm : 0 < m) (e : ℤ) :
    Int.log 2 ((m : ℚ) * 2 ^ e) = Nat.log 2 m + e := by
  have hq : (0 : ℚ) < (m : ℚ) * 2 ^ e := by positivity
  have h1 : (2 : ℚ) ^ ((Nat.log 2 m : ℤ) + e) ≤ m * 2 ^ e := by
    rw [zpow_add₀ (by norm_num), zpow_natCast]
    gcongr
    exact_mod_cast Nat.pow_log_le_self 2 hm.ne'
  have h2 : (m : ℚ) * 2 ^ e < 2 ^ ((Nat.log 2 m : ℤ) + e + 1) := by
    rw [show ((Nat.log 2 m : ℤ) + e + 1) = ((Nat.log 2 m + 1 : ℕ) : ℤ) + e by push_cast; ring,
      zpow_add₀ (by norm_num), zpow_natCast]
    gcongr
    exact_mod_cast Nat.lt_pow_succ_log_self (by norm_num) m
  rw [two_zpow_le_iff hq] at h1
  rw [lt_two_zpow_iff hq] at h2
  omega

/-! ## Rounding what needs no rounding -/

lemma divNearestEven_mul_right {d : ℕ} (hd : 0 < d) (m : ℕ) : divNearestEven (m * d) d = m := by
  simp [divNearestEven, hd, Nat.mul_div_cancel _ hd]

/-- The exponent that rounding chooses for a double is the one that the double has: a full
significand leaves no choice, and any other one stands at the least exponent. -/
lemma max_log_sub_eq {m : ℕ} {e : ℤ} (hm : 0 < m) (h : Canonical m e) :
    max ((Nat.log 2 m : ℤ) + e - 52) (-1074) = e := by
  obtain ⟨hlt, hmin, -, hfull | hleast⟩ := h
  · have hlog : Nat.log 2 m = 52 :=
      (Nat.log_eq_iff (by norm_num)).mpr ⟨by norm_num; omega, by norm_num; omega⟩
    rw [hlog]
    omega
  · have hlog : Nat.log 2 m < 53 := Nat.log_lt_of_lt_pow hm.ne' (by norm_num; omega)
    omega

/-- A quotient that is a double already keeps its significand and exponent. -/
theorem roundParts_eq {num den m : ℕ} (hden : 0 < den) {e : ℤ} (h : Canonical m e)
    (hq : (num : ℚ) / den = m * 2 ^ e) : roundParts num den = (m, e) := by
  have hdenq : (den : ℚ) ≠ 0 := by exact_mod_cast hden.ne'
  rcases Nat.eq_zero_or_pos m with rfl | hm
  · -- zero has no logarithm, and its exponent is the least one by convention
    have hnum : num = 0 := by
      rw [Nat.cast_zero, zero_mul, div_eq_zero_iff] at hq
      exact_mod_cast hq.resolve_right hdenq
    have he : e = -1074 := h.2.2.2.resolve_left (by norm_num)
    rw [hnum, he]
    rfl
  · have hnum : 0 < num := by
      rcases Nat.eq_zero_or_pos num with rfl | hpos
      · rw [Nat.cast_zero, zero_div] at hq
        exact absurd hq.symm (by positivity)
      · exact hpos
    have hexp : max (floorLog2 num den - 52) (-1074) = e := by
      rw [floorLog2_eq hnum hden, hq, log_mul_zpow hm, max_log_sub_eq hm h]
    have hsig : divNearestEven (num <<< (-e).toNat) (den <<< e.toNat) = m := by
      rw [shiftLeft_eq_mul_of_div_eq hden hq]
      exact divNearestEven_mul_right (by rw [Nat.shiftLeft_eq]; positivity) m
    have hlt : m ≠ 0x20000000000000 := h.1.ne
    simp only [roundParts, hnum.ne', if_false, hexp, hsig, hlt]

/-! ## Doubles -/

/-- The number without its sign. -/
def abs (d : Double) : Double := { d with negative := false }

lemma magnitude_eq (d : Double) : d.magnitude = (d.significand : ℚ) * 2 ^ d.exponent := by
  rw [magnitude, power_eq_zpow]
  norm_num

lemma magnitude_nonneg (d : Double) : 0 ≤ d.magnitude := by
  rw [magnitude_eq]
  positivity

lemma natAbs_num_div_den {q : ℚ} (hq : 0 ≤ q) : (q.num.natAbs : ℚ) / q.den = q := by
  have hnum : ((q.num.natAbs : ℤ) : ℚ) = (q.num : ℚ) := by
    rw [Int.natAbs_of_nonneg (Rat.num_nonneg.mpr hq)]
  rw [← Int.cast_natCast, hnum]
  exact Rat.num_div_den q

/-- **A double is the double nearest to its magnitude.** -/
theorem nearest?_magnitude (d : Double) : nearest? false d.magnitude = some d.abs := by
  have hparts : roundParts d.magnitude.num.natAbs d.magnitude.den = (d.significand, d.exponent) :=
    roundParts_eq d.magnitude.den_pos d.canonical
      (by rw [natAbs_num_div_den d.magnitude_nonneg, magnitude_eq])
  simp only [nearest?, hparts, ofParts?, dif_pos d.canonical, abs]

/-! ## Integers that are doubles -/

/-- Every natural number of at most 53 binary digits has a representation. -/
lemma exists_canonical {m : ℕ} (hm : m < 2 ^ 53) :
    ∃ (sig : ℕ) (e : ℤ), Canonical sig e ∧ (m : ℚ) = sig * 2 ^ e := by
  rcases Nat.eq_zero_or_pos m with rfl | hpos
  · exact ⟨0, -1074, by decide, by simp⟩
  have hlog : Nat.log 2 m ≤ 52 := Nat.lt_succ_iff.1 (Nat.log_lt_of_lt_pow hpos.ne' hm)
  have hlow : 2 ^ Nat.log 2 m ≤ m := Nat.pow_log_le_self 2 hpos.ne'
  have hhigh : m < 2 ^ (Nat.log 2 m + 1) := Nat.lt_pow_succ_log_self (by norm_num) m
  generalize Nat.log 2 m = l at hlog hlow hhigh
  have hpow : (2 : ℕ) ^ l * 2 ^ (52 - l) = 2 ^ 52 := by
    rw [← pow_add]
    congr 1
    omega
  refine ⟨m * 2 ^ (52 - l), (l : ℤ) - 52, ⟨?_, by omega, by omega, Or.inl ?_⟩, ?_⟩
  · have hlt := Nat.mul_lt_mul_of_pos_right hhigh (show 0 < 2 ^ (52 - l) by positivity)
    rw [pow_succ, mul_right_comm, hpow] at hlt
    norm_num at hlt
    omega
  · have hle := Nat.mul_le_mul_right (2 ^ (52 - l)) hlow
    rw [hpow] at hle
    norm_num at hle
    omega
  · have hexp : (l : ℤ) - 52 = -((52 - l : ℕ) : ℤ) := by omega
    rw [hexp, zpow_neg, zpow_natCast]
    push_cast
    field_simp

/-- **An integer of at most 53 binary digits** is a double. -/
lemma exists_ofInt?_eq {i : ℤ} (hi : i.natAbs < 2 ^ 53) :
    ∃ d, ofInt? i = some d ∧ d.value = i := by
  obtain ⟨sig, e, hcanonical, hvalue⟩ := exists_canonical hi
  have hparts : roundParts (i.natAbs : ℚ).num.natAbs (i.natAbs : ℚ).den = (sig, e) := by
    refine roundParts_eq (Rat.den_pos _) hcanonical ?_
    rw [natAbs_num_div_den (by positivity), hvalue]
  refine ⟨⟨i < 0, sig, e, hcanonical⟩, ?_, ?_⟩
  · simp only [ofInt?, nearest?, hparts, ofParts?, dif_pos hcanonical]
  · have habs : (i.natAbs : ℚ) = |(i : ℚ)| := by
      rw [← Int.cast_natCast, Int.natCast_natAbs, Int.cast_abs]
    rw [value, magnitude_eq, ← hvalue, habs]
    by_cases hneg : i < 0
    · have hnegq : (i : ℚ) < 0 := by exact_mod_cast hneg
      simp [hneg, abs_of_neg hnegq]
    · have hnonneg : (0 : ℚ) ≤ i := by exact_mod_cast not_lt.1 hneg
      simp [hneg, abs_of_nonneg hnonneg]

/-! ## Rounding does not cross powers of two -/

lemma le_divNearestEven {n d m : ℕ} (hd : 0 < d) (h : m * d ≤ n) : m ≤ divNearestEven n d := by
  have hfloor : m ≤ n / d := (Nat.le_div_iff_mul_le hd).2 h
  simp only [divNearestEven]
  split_ifs <;> omega

lemma two_zpow_eq_mul {k e : ℤ} (hek : e ≤ k) : (2 : ℚ) ^ k = 2 ^ (k - e).toNat * 2 ^ e := by
  rw [← zpow_natCast, Int.toNat_of_nonneg (by omega), ← zpow_add₀ (by norm_num)]
  congr 1
  omega

/-- The significand that a power of two has at an exponent bounds that of a greater quotient. -/
lemma mul_shiftLeft_le {a b : ℕ} (hb : 0 < b) {k e : ℤ} (hek : e ≤ k)
    (h : (2 : ℚ) ^ k ≤ (a : ℚ) / b) :
    2 ^ (k - e).toNat * b <<< e.toNat ≤ a <<< (-e).toNat := by
  have hbq : (0 : ℚ) < b := by exact_mod_cast hb
  rw [two_zpow_eq_mul hek, two_zpow_eq_div, ← mul_div_assoc,
    div_le_div_iff₀ (by positivity) hbq] at h
  rw [Nat.shiftLeft_eq, Nat.shiftLeft_eq, ← mul_assoc, mul_right_comm]
  exact_mod_cast h

lemma ofParts?_eq_some {negative : Bool} {m : ℕ} {e : ℤ} {d : Double}
    (h : ofParts? negative m e = some d) :
    d.negative = negative ∧ d.significand = m ∧ d.exponent = e := by
  rw [ofParts?] at h
  split_ifs at h
  obtain rfl := Option.some.inj h
  exact ⟨rfl, rfl, rfl⟩

/-- **A quotient that reaches a power of two** still does when it is rounded. -/
theorem two_zpow_le_magnitude_of_nearest? {negative : Bool} {q : ℚ} {k : ℤ} {d : Double}
    (hk : -1074 ≤ k) (hq : (2 : ℚ) ^ k ≤ q) (h : nearest? negative q = some d) :
    (2 : ℚ) ^ k ≤ d.magnitude := by
  have hpos : 0 < q := lt_of_lt_of_le (by positivity) hq
  have hnum : 0 < q.num.natAbs := Int.natAbs_pos.2 (Rat.num_pos.2 hpos).ne'
  have hquotient : (q.num.natAbs : ℚ) / q.den = q := natAbs_num_div_den hpos.le
  simp only [nearest?, roundParts, hnum.ne', if_false, floorLog2_eq hnum q.den_pos,
    hquotient] at h
  -- the exponent is at most the logarithm, so the significand reaches the power of two between them
  generalize he : max (Int.log 2 q - 52) (-1074) = e at h
  have hlog : k ≤ Int.log 2 q := (two_zpow_le_iff hpos k).1 hq
  have hexp : e ≤ Int.log 2 q := by omega
  have hreach : (2 : ℚ) ^ Int.log 2 q ≤ (q.num.natAbs : ℚ) / q.den := by
    rw [hquotient]
    exact (two_zpow_le_iff hpos _).2 le_rfl
  have hden : 0 < q.den <<< e.toNat := by
    rw [Nat.shiftLeft_eq]
    exact Nat.mul_pos q.den_pos (by positivity)
  have hsig := le_divNearestEven hden (mul_shiftLeft_le q.den_pos hexp hreach)
  generalize divNearestEven (q.num.natAbs <<< (-e).toNat) (q.den <<< e.toNat) = m at h hsig
  have hmagnitude : d.magnitude = m * 2 ^ e := by
    split_ifs at h with hcarry
    · obtain ⟨-, hm, he⟩ := ofParts?_eq_some h
      rw [magnitude_eq, hm, he, hcarry, zpow_add₀ (by norm_num)]
      norm_num
      ring
    · obtain ⟨-, hm, he⟩ := ofParts?_eq_some h
      rw [magnitude_eq, hm, he]
  calc (2 : ℚ) ^ k ≤ 2 ^ Int.log 2 q := zpow_le_zpow_right₀ (by norm_num) hlog
    _ = 2 ^ (Int.log 2 q - e).toNat * 2 ^ e := two_zpow_eq_mul hexp
    _ ≤ m * 2 ^ e := by
        gcongr
        exact_mod_cast hsig
    _ = d.magnitude := hmagnitude.symm

/-! ## Doubles between two powers of two -/

lemma value_of_pos {d : Double} (h : 0 < d.value) : d.value = d.magnitude := by
  rw [value] at h ⊢
  split_ifs at h ⊢
  · linarith [d.magnitude_nonneg]
  · rfl

/-- A double between a power of two and the next one has this exponent. -/
lemma exponent_of_magnitude_mem {d : Double} {k : ℤ} (hk : -1022 ≤ k)
    (hlow : (2 : ℚ) ^ k ≤ d.magnitude) (hhigh : d.magnitude < 2 ^ (k + 1)) :
    d.exponent = k - 52 := by
  have hpos : 0 < d.magnitude := lt_of_lt_of_le (by positivity) hlow
  have hsig : 0 < d.significand := by
    by_contra hzero
    rw [magnitude_eq, Nat.eq_zero_of_not_pos hzero, Nat.cast_zero, zero_mul] at hpos
    exact lt_irrefl _ hpos
  rw [two_zpow_le_iff hpos, magnitude_eq, log_mul_zpow hsig] at hlow
  rw [lt_two_zpow_iff hpos, magnitude_eq, log_mul_zpow hsig] at hhigh
  have hexp := max_log_sub_eq hsig d.canonical
  omega

end Double

end LintConfig
