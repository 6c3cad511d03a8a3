import Mathlib
import LintConfig.Proofs.ConfigFile.Normalization
import LintConfig.Proofs.Double.Rounding

/-!
# Which numbers are levels

A number stands for a severity if it is less than `2^-52` away from its level
(`Severity.ofNumber?_eq_some_iff`).  What this allows depends on how close doubles lie to the level.

**Integers.**  No integer but the level itself is that near.

**Doubles.**  Around zero they lie close together, so all those below `2^-52` count as zero.  Just
below one there is a single one that counts as one, and around two there is none but two itself
(`Double.abs_value_sub_one_lt_iff`, `Double.abs_value_sub_two_lt_iff`).  These are the numbers that
are no levels and are taken for some (`forall_ofNumber?_iff`, `not_only_levels`).

**Working in doubles.**  The distance may as well be worked out in doubles, with the number brought
to the nearest one first and the difference rounded again: no number comes near a level or loses one
in this way (`isLevel_iff_roundedDistance`).
-/

namespace LintConfig

namespace Double

section Levels

variable {d : Double}

/-- Between two powers of two the doubles are the multiples of one number, so one of them is known
by lying within that number of a multiple. -/
lemma value_eq_of_near {k : ℤ} {m : ℕ} (hk : -1022 ≤ k) (hlow : (2 : ℚ) ^ k ≤ d.value)
    (hhigh : d.value < 2 ^ (k + 1)) (habove : ((m : ℚ) - 1) * 2 ^ (k - 52) < d.value)
    (hbelow : d.value < ((m : ℚ) + 1) * 2 ^ (k - 52)) : d.value = m * 2 ^ (k - 52) := by
  have hmagnitude : d.value = d.magnitude := value_of_pos (lt_of_lt_of_le (by positivity) hlow)
  rw [hmagnitude] at hlow hhigh
  have hvalue : d.value = d.significand * 2 ^ (k - 52) := by
    rw [hmagnitude, magnitude_eq, exponent_of_magnitude_mem hk hlow hhigh]
  have hpow : (0 : ℚ) < 2 ^ (k - 52) := by positivity
  rw [hvalue, mul_lt_mul_iff_left₀ hpow] at habove hbelow
  have hsig : d.significand = m := by
    have h1 : m < d.significand + 1 := by exact_mod_cast sub_lt_iff_lt_add.1 habove
    have h2 : d.significand < m + 1 := by exact_mod_cast hbelow
    omega
  rw [hvalue, hsig]

/-- **Next to one** there are one itself and the double before it. -/
lemma abs_value_sub_one_lt_iff :
    |d.value - 1| < 1 / 2 ^ 52 ↔ d.value = 1 ∨ d.value = 1 - 1 / 2 ^ 53 := by
  constructor
  · intro h
    obtain ⟨hlow, hhigh⟩ := abs_lt.1 h
    norm_num at hlow hhigh
    rcases le_or_gt 1 d.value with hge | hlt
    · left
      have hvalue := value_eq_of_near (d := d) (k := 0) (m := 2 ^ 52) (by norm_num)
        (by norm_num; linarith) (by norm_num; linarith) (by norm_num; linarith)
        (by norm_num; linarith)
      rw [hvalue]
      norm_num
    · right
      have hvalue := value_eq_of_near (d := d) (k := -1) (m := 2 ^ 53 - 1) (by norm_num)
        (by norm_num; linarith) (by norm_num; linarith) (by norm_num; linarith)
        (by norm_num; linarith)
      rw [hvalue]
      norm_num
  · rintro (h | h)
    · rw [h]
      norm_num
    · rw [h]
      norm_num [abs_lt]

/-- **Next to two** there is no double but two itself. -/
lemma abs_value_sub_two_lt_iff : |d.value - 2| < 1 / 2 ^ 52 ↔ d.value = 2 := by
  constructor
  · intro h
    obtain ⟨hlow, hhigh⟩ := abs_lt.1 h
    norm_num at hlow hhigh
    rcases le_or_gt 2 d.value with hge | hlt
    · have hvalue := value_eq_of_near (d := d) (k := 1) (m := 2 ^ 52) (by norm_num)
        (by norm_num; linarith) (by norm_num; linarith) (by norm_num; linarith)
        (by norm_num; linarith)
      rw [hvalue]
      norm_num
    · -- the double before two is too far away
      have hvalue := value_eq_of_near (d := d) (k := 0) (m := 2 ^ 53 - 1) (by norm_num)
        (by norm_num; linarith) (by norm_num; linarith) (by norm_num; linarith)
        (by norm_num; linarith)
      norm_num at hvalue
      linarith
  · intro h
    rw [h]
    norm_num

end Levels

end Double

namespace Severity

/-! ## Numbers near a level -/

section Numbers

variable {n : Number} {s t : Severity}

lemma isLevel_iff : isLevel n s = true ↔ |n.value - s.level| < 1 / 2 ^ 52 := by
  have htolerance : tolerance = 1 / 2 ^ 52 := by norm_num [tolerance, Double.epsilon]
  rw [isLevel, Bool.and_eq_true, decide_eq_true_iff, decide_eq_true_iff, htolerance, abs_lt]

/-- No number is near to two levels. -/
lemma eq_of_isLevel (hs : isLevel n s = true) (ht : isLevel n t = true) : s = t := by
  rw [isLevel_iff] at hs ht
  have hlevels : |(s.level : ℚ) - t.level| < 1 := by
    have htriangle := abs_sub_le (s.level : ℚ) n.value t.level
    rw [abs_sub_comm (s.level : ℚ) n.value] at htriangle
    norm_num at hs ht
    linarith
  cases s <;> cases t <;> first | rfl | exact absurd hlevels (by norm_num [level])

theorem ofNumber?_eq_some_iff : ofNumber? n = some s ↔ |n.value - s.level| < 1 / 2 ^ 52 := by
  rw [← isLevel_iff, ofNumber?]
  constructor
  · exact List.find?_some
  · intro hs
    have hmem : s ∈ all := by cases s <;> simp [all]
    have hsome : (all.find? (isLevel n)).isSome := List.find?_isSome.2 ⟨s, hmem, hs⟩
    obtain ⟨t, ht⟩ := Option.isSome_iff_exists.1 hsome
    rw [ht, eq_of_isLevel hs (List.find?_some ht)]

/-- **An integer** stands for a severity only if it is its level. -/
lemma ofNumber?_integer_iff {i : ℤ} : ofNumber? (.integer i) = some s ↔ i = s.level := by
  rw [ofNumber?_eq_some_iff]
  constructor
  · intro h
    have hint : |i - s.level| < 1 := by
      have hlt : |(i : ℚ) - s.level| < 1 := lt_trans h (by norm_num)
      exact_mod_cast hlt
    exact sub_eq_zero.1 (Int.abs_lt_one_iff.1 hint)
  · rintro rfl
    simp [Number.value]

end Numbers

/-! ## Working in doubles -/

/-- The distance of a number from a level as doubles give it: the number is brought to the nearest
double, and so is the difference. -/
def roundedDistance? (n : Number) (s : Severity) : Option Double :=
  n.toDouble?.bind fun d => Double.nearest? false |d.value - s.level|

section Rounded

variable {n : Number} {s : Severity} {d : Double}

/-- A double near a level differs from it by a double. -/
lemma exists_magnitude_eq (h : |d.value - s.level| < 1 / 2 ^ 52) :
    ∃ gap : Double, gap.magnitude = |d.value - s.level| := by
  have hzero : ∀ x : ℚ, x = 0 → ∃ gap : Double, gap.magnitude = |x| := by
    rintro x rfl
    exact ⟨Double.zero false, by simp [Double.magnitude_eq, Double.zero]⟩
  cases s with
  | off =>
      refine ⟨d, ?_⟩
      rw [Double.value]
      split_ifs <;> simp [level, abs_of_nonneg d.magnitude_nonneg]
  | warn =>
      have hcast : ((warn.level : ℕ) : ℚ) = 1 := by norm_num [level]
      rw [hcast] at h ⊢
      rcases Double.abs_value_sub_one_lt_iff.1 h with hone | hbefore
      · exact hzero _ (by rw [hone, sub_self])
      · refine ⟨⟨false, 0x10000000000000, -105, by decide⟩, ?_⟩
        rw [hbefore, Double.magnitude_eq]
        norm_num [abs_of_nonneg]
  | error =>
      have hcast : ((error.level : ℕ) : ℚ) = 2 := by norm_num [level]
      rw [hcast] at h ⊢
      exact hzero _ (by rw [Double.abs_value_sub_two_lt_iff.1 h, sub_self])

/-- Bringing an integer to the nearest double does not bring it near a level. -/
lemma eq_level_of_ofInt? {i : ℤ} (hd : Double.ofInt? i = some d)
    (h : |d.value - s.level| < 1 / 2 ^ 52) : i = s.level := by
  by_cases hsmall : i.natAbs < 2 ^ 53
  · obtain ⟨d', hd', hvalue⟩ := Double.exists_ofInt?_eq hsmall
    obtain rfl := Option.some.inj (hd.symm.trans hd')
    rw [hvalue] at h
    exact ofNumber?_integer_iff.1 (ofNumber?_eq_some_iff.2 h)
  · exfalso
    have hreach : (2 : ℚ) ^ (53 : ℤ) ≤ (i.natAbs : ℚ) := by exact_mod_cast not_lt.1 hsmall
    have hmagnitude := Double.two_zpow_le_magnitude_of_nearest? (by norm_num) hreach hd
    have hlevel : (s.level : ℚ) ≤ 2 := by cases s <;> norm_num [level]
    have hlevel' : (0 : ℚ) ≤ s.level := by positivity
    obtain ⟨hlow, hhigh⟩ := abs_lt.1 h
    rw [Double.value] at hlow hhigh
    norm_num at hmagnitude hlow hhigh
    split_ifs at hlow hhigh <;> linarith

/-- **Whether a number is near a level** may be found out in doubles. -/
theorem isLevel_iff_roundedDistance :
    isLevel n s = true ↔ ∃ gap, roundedDistance? n s = some gap ∧ gap.magnitude < 1 / 2 ^ 52 := by
  rw [isLevel_iff]
  constructor
  · intro h
    have hdouble : ∃ d, n.toDouble? = some d ∧ d.value = n.value := by
      cases n with
      | double d => exact ⟨d, rfl, rfl⟩
      | integer i =>
          have hi : i = s.level := ofNumber?_integer_iff.1 (ofNumber?_eq_some_iff.2 h)
          refine Double.exists_ofInt?_eq ?_
          rw [hi]
          cases s <;> norm_num [level]
    obtain ⟨d, hd, hvalue⟩ := hdouble
    rw [← hvalue] at h
    obtain ⟨gap, hgap⟩ := exists_magnitude_eq h
    refine ⟨gap.abs, ?_, ?_⟩
    · rw [roundedDistance?, hd, Option.bind_some, ← hgap, Double.nearest?_magnitude]
    · have habs : gap.abs.magnitude = gap.magnitude := rfl
      rwa [habs, hgap]
  · rintro ⟨gap, hrounded, hgap⟩
    obtain ⟨d, hd, hnearest⟩ := Option.bind_eq_some_iff.1 hrounded
    -- a difference of `2^-52` or more is not rounded to less
    have hnear : |d.value - s.level| < 1 / 2 ^ 52 := by
      by_contra hfar
      have hreach : (2 : ℚ) ^ (-52 : ℤ) ≤ |d.value - s.level| := by
        norm_num at hfar ⊢
        exact hfar
      have hmagnitude := Double.two_zpow_le_magnitude_of_nearest? (by norm_num) hreach hnearest
      norm_num at hgap hmagnitude
      linarith
    cases n with
    | double d' =>
        obtain rfl := Option.some.inj hd
        exact hnear
    | integer i =>
        have hi : i = s.level := eq_level_of_ofInt? hd hnear
        exact ofNumber?_eq_some_iff.1 (ofNumber?_integer_iff.2 hi)

end Rounded

/-! ## Entries of a file -/

/-- An entry whose severity is written as a number, alone or in front of options. -/
def WrittenLevel (v : Toml.Value) (n : Number) : Prop :=
  ∃ head options, (v = head ∨ v = .array (head :: options)) ∧ head.toJson = .num n

lemma WrittenLevel.objection {v : Toml.Value} {n : Number} (h : WrittenLevel v n)
    (hn : ofNumber? n = none) (id : String) :
    ConfigFile.Objection id v (.invalidSeverity id (.num n)) := by
  obtain ⟨head, options, hv, himage⟩ := h
  have hnone : ofJson? head.toJson = none := by
    rw [himage]
    exact hn
  rw [← himage]
  rcases hv with rfl | rfl
  · refine ConfigFile.Objection.alone (fun items heq => ?_) hnone
    rw [heq, ConfigFile.toJson_array] at himage
    exact nomatch himage
  · exact ConfigFile.Objection.head hnone

/-- A number within `2^-52` of zero that is not zero, or the double before one. -/
def StrayLevel (n : Number) : Prop :=
  (n.value ≠ 0 ∧ |n.value| < 1 / 2 ^ 52) ∨ n.value = 1 - 1 / 2 ^ 53

section Outcomes

variable {n : Number}

lemma ofNumber?_eq_off_iff : ofNumber? n = some .off ↔ |n.value| < 1 / 2 ^ 52 := by
  have hlevel : ((off.level : ℕ) : ℚ) = 0 := by norm_num [level]
  rw [ofNumber?_eq_some_iff, hlevel, sub_zero]

lemma ofNumber?_eq_warn_iff :
    ofNumber? n = some .warn ↔ n.value = 1 ∨ n.value = 1 - 1 / 2 ^ 53 := by
  have hlevel : ((warn.level : ℕ) : ℚ) = 1 := by norm_num [level]
  cases n with
  | double d =>
      rw [ofNumber?_eq_some_iff, hlevel]
      exact Double.abs_value_sub_one_lt_iff
  | integer i =>
      have hnot : ¬ (i : ℚ) = 1 - 1 / 2 ^ 53 := by
        intro h
        have hlow : (0 : ℚ) < i := by rw [h]; norm_num
        have hhigh : (i : ℚ) < 1 := by rw [h]; norm_num
        have hlow' : 0 < i := by exact_mod_cast hlow
        have hhigh' : i < 1 := by exact_mod_cast hhigh
        omega
      rw [ofNumber?_integer_iff, Number.value, or_iff_left hnot]
      exact_mod_cast Iff.rfl

lemma ofNumber?_eq_error_iff : ofNumber? n = some .error ↔ n.value = 2 := by
  have hlevel : ((error.level : ℕ) : ℚ) = 2 := by norm_num [level]
  cases n with
  | double d =>
      rw [ofNumber?_eq_some_iff, hlevel]
      exact Double.abs_value_sub_two_lt_iff
  | integer i =>
      rw [ofNumber?_integer_iff, Number.value]
      exact_mod_cast Iff.rfl

/-- A number stands for the severity whose level it is, and for no other, unless it is astray. -/
lemma forall_ofNumber?_iff :
    (∀ s, ofNumber? n = some s ↔ n.value = s.level) ↔ ¬ StrayLevel n := by
  have hone : (1 : ℚ) - 1 / 2 ^ 53 ≠ 1 := by norm_num
  constructor
  · rintro h (⟨hzero, hnear⟩ | hbefore)
    · have hoff := (h .off).1 (ofNumber?_eq_off_iff.2 hnear)
      norm_num [level] at hoff
      exact hzero hoff
    · have hwarn := (h .warn).1 (ofNumber?_eq_warn_iff.2 (Or.inr hbefore))
      rw [hbefore] at hwarn
      norm_num [level] at hwarn
  · intro hstray s
    constructor
    · intro hs
      cases s with
      | off =>
          have hnear := ofNumber?_eq_off_iff.1 hs
          by_contra hne
          norm_num [level] at hne
          exact hstray (Or.inl ⟨hne, hnear⟩)
      | warn =>
          rcases ofNumber?_eq_warn_iff.1 hs with hlevel | hbefore
          · rw [hlevel]
            norm_num [level]
          · exact absurd (Or.inr hbefore) hstray
      | error =>
          rw [ofNumber?_eq_error_iff.1 hs]
          norm_num [level]
    · intro hs
      rw [ofNumber?_eq_some_iff, hs]
      norm_num

end Outcomes

/-- **Numbers stand for the severities whose levels they are near to.**

* A number stands for the severity whose level it is and for no other, unless it is a `StrayLevel`,
  which no integer is.
* A stray one stands for `off` or for `warn`, and an entry with the former at its head is disabled.
* The distance from a level may be worked out in doubles.
* A file with a number for a severity that stands for none cannot be normalized, and the error says
  so unless an earlier entry is at fault. -/
theorem number_outcome (n : Number) :
    ((∀ s, ofJson? (.num n) = some s ↔ n.value = s.level) ↔ ¬ StrayLevel n)
      ∧ (∀ i, n = .integer i → ¬ StrayLevel n)
      ∧ (ofJson? (.num n) = some .off ↔ |n.value| < 1 / 2 ^ 52)
      ∧ (ofJson? (.num n) = some .warn ↔ n.value = 1 ∨ n.value = 1 - 1 / 2 ^ 53)
      ∧ (ofJson? (.num n) = some .error ↔ n.value = 2)
      ∧ (∀ options, RuleEntry.isDisabled (.num n :: options) = true ↔ |n.value| < 1 / 2 ^ 52)
      ∧ (∀ s, ofJson? (.num n) = some s
          ↔ ∃ gap, roundedDistance? n s = some gap ∧ gap.magnitude < 1 / 2 ^ 52)
      ∧ (ofJson? (.num n) = none → ∀ (file : ConfigFile) before id v later,
          file.rules.entries = before ++ (id, v) :: later → WrittenLevel v n →
            (¬ ∃ rules, file.ruleEntries = .ok rules)
            ∧ ((∀ e ∈ before, ∃ severity options, ConfigFile.Says e.2 severity options) →
                file.ruleEntries = .error (.invalidSeverity id (.num n)))) := by
  refine ⟨forall_ofNumber?_iff, ?_, ofNumber?_eq_off_iff, ofNumber?_eq_warn_iff,
    ofNumber?_eq_error_iff, fun options => ?_, fun s => ?_,
    fun hnone file before id v later hentries hlevel => ⟨?_, ?_⟩⟩
  · rintro i rfl
    rw [← forall_ofNumber?_iff]
    intro s
    rw [ofNumber?_integer_iff, Number.value]
    exact_mod_cast Iff.rfl
  · have hdisabled : RuleEntry.isDisabled (.num n :: options) = true
        ↔ ofNumber? n = some .off := decide_eq_true_iff
    rw [hdisabled, ofNumber?_eq_off_iff]
  · rw [← isLevel_iff_roundedDistance, isLevel_iff, ← ofNumber?_eq_some_iff]
    rfl
  · rw [ConfigFile.exists_ruleEntries_iff, hentries]
    intro hall
    obtain ⟨entry, hentry⟩ := hall (id, v) (by simp)
    rw [ConfigFile.normalize_toJson_eq_error_iff.2 (hlevel.objection hnone id)] at hentry
    exact nomatch hentry
  · intro hbefore
    rw [ConfigFile.ruleEntries_eq_error_iff, ConfigFile.firstEntryFault_iff]
    exact ⟨before, id, v, later, hentries, hbefore, hlevel.objection hnone id⟩

/-- The double nearest to `10^-17`. -/
def faint : Double := ⟨false, 0x170ef54646d497, -109, by decide⟩

/-- A file with this number for a severity, and three for the next one. -/
def faintFile : ConfigFile where
  rules := ⟨[("a", .float (some faint)), ("b", .array [.integer 3, .string "always"])], by decide⟩

/-- The first of its entries says `off`, so it is the second one that is reported. -/
theorem number_outcome_faintFile :
    WrittenLevel (.array [.integer 3, .string "always"]) (.integer 3)
      ∧ ofJson? (.num (.integer 3)) = none
      ∧ faintFile.ruleEntries = .error (.invalidSeverity "b" (.num (.integer 3))) := by
  have hlevel : WrittenLevel (.array [.integer 3, .string "always"]) (.integer 3) :=
    ⟨_, _, Or.inr rfl, rfl⟩
  have hnone : ofJson? (.num (.integer 3)) = none := by decide +kernel
  have hoff : ofJson? (Toml.Value.float (some faint)).toJson = some .off := by decide +kernel
  obtain ⟨-, -, -, -, -, -, -, hentries⟩ := number_outcome (.integer 3)
  refine ⟨hlevel, hnone, (hentries hnone faintFile [("a", .float (some faint))] "b" _ [] rfl
    hlevel).2 fun e he => ?_⟩
  obtain rfl := List.mem_singleton.1 he
  exact ⟨.off, [], ConfigFile.Says.alone hoff⟩

/-- **Other numbers than the levels count as levels**, and turn rules off. -/
theorem not_only_levels :
    (¬ ∀ (n : Number) (s : Severity), ofJson? (.num n) = some s ↔ n.value = s.level)
      ∧ RuleEntry.isDisabled [.num (.double faint)] = true := by
  have hoff : ofJson? (.num (.double faint)) = some .off := by decide +kernel
  refine ⟨fun h => ?_, decide_eq_true_iff.2 hoff⟩
  have hzero : (Number.double faint).value = (off.level : ℕ) := (h _ _).1 hoff
  exact absurd hzero (by decide +kernel)

end Severity

end LintConfig
