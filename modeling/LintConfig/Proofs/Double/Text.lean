import LintConfig.Pieces
import LintConfig.Json.Printer
import LintConfig.Proofs.Double.Shortest

/-!
# Different doubles have different texts

A double is written as its shortest decimal, with or without an exponent mark.  Both layouts write
numerals, and the step from the text to the double takes three lemmas.

* `Numeral.chars_injective`: a text is the text of one numeral only.
* `exists_numeral`: the text of a double without its sign is a numeral with the value of the
  shortest decimal, and one that shows that it is not an integer.
* **`format_injective`**: the text of a double is the text of no other double.  The two zeros differ
  by their sign.
-/

namespace LintConfig

/-! ## Numerals

Both layouts write a numeral: digits, then perhaps a point and more digits, then perhaps an exponent
mark and an exponent.  The marks are not digits, so a text is the text of one numeral only.
-/

lemma isDigit_of_mem_toDigits {n : ℕ} {c : Char} (h : c ∈ Nat.toDigits 10 n) : c.isDigit :=
  Nat.isDigit_of_mem_toDigits (by norm_num) (by norm_num) h

/-- The parts of a decimal text without a sign. -/
structure Numeral where
  /-- The digits before the point. -/
  whole : List Char
  /-- The digits after the point, if there is one. -/
  places : Option (List Char)
  /-- The number after the exponent mark, if there is one. -/
  exponent : Option ℤ
  whole_ne_nil : whole ≠ []
  digits : ∀ c ∈ whole ++ places.getD [], c.isDigit

namespace Numeral

/-- What stands before the exponent mark. -/
def mantissa (n : Numeral) : List Char := n.whole ++ n.places.elim [] ('.' :: ·)

/-- What stands after the exponent mark. -/
def scale (e : ℤ) : List Char := (if e < 0 then '-' else '+') :: Nat.toDigits 10 e.natAbs

/-- The text. -/
def chars (n : Numeral) : List Char := n.mantissa ++ n.exponent.elim [] fun e => 'e' :: scale e

/-- The number that is meant. -/
def value (n : Numeral) : ℚ :=
  (Nat.ofDigitChars 10 (n.whole ++ n.places.getD []) 0 : ℚ)
    * 10 ^ (n.exponent.getD 0 - (n.places.getD []).length)

lemma notMem_whole (n : Numeral) {c : Char} (hc : c.isDigit = false) : c ∉ n.whole := by
  intro hm
  rw [n.digits c (List.mem_append_left _ hm)] at hc
  exact Bool.noConfusion hc

lemma notMem_mantissa (n : Numeral) {c : Char} (hc : c.isDigit = false) (hp : c ≠ '.') :
    c ∉ n.mantissa := by
  intro hm
  rw [mantissa, List.mem_append] at hm
  rcases hm with hm | hm
  · exact n.notMem_whole hc hm
  · cases hplaces : n.places with
    | none => simp [hplaces] at hm
    | some places =>
        have hmem : c ∈ places := by simpa [hplaces, hp] using hm
        have hd := n.digits c (List.mem_append_right _ (by simpa [hplaces] using hmem))
        rw [hd] at hc
        exact Bool.noConfusion hc

lemma cutAt_mantissa (n : Numeral) : cutAt '.' n.mantissa = (n.whole, n.places) := by
  have hp : '.' ∉ n.whole := n.notMem_whole (by decide)
  rw [mantissa]
  cases n.places with
  | none => simpa using cutAt_of_notMem hp
  | some places => exact cutAt_append_cons hp places

lemma cutAt_chars (n : Numeral) : cutAt 'e' n.chars = (n.mantissa, n.exponent.map scale) := by
  have he : 'e' ∉ n.mantissa := n.notMem_mantissa (by decide) (by decide)
  rw [chars]
  cases n.exponent with
  | none => simpa using cutAt_of_notMem he
  | some e => exact cutAt_append_cons he (scale e)

lemma scale_injective : Function.Injective scale := by
  intro e f h
  rw [scale, scale, List.cons.injEq] at h
  obtain ⟨hsign, hdigits⟩ := h
  have habs : e.natAbs = f.natAbs := by
    rw [← Nat.ofDigitChars_ten_toDigits (n := e.natAbs), hdigits, Nat.ofDigitChars_ten_toDigits]
  split_ifs at hsign with h1 h2 h2
  · omega
  · exact absurd hsign (by decide)
  · exact absurd hsign (by decide)
  · omega

/-- A text is the text of one numeral only. -/
theorem chars_injective : Function.Injective chars := by
  intro m n h
  have hcut := congrArg (cutAt 'e') h
  rw [cutAt_chars, cutAt_chars, Prod.mk.injEq] at hcut
  obtain ⟨hmantissa, hscale⟩ := hcut
  have hcut' := congrArg (cutAt '.') hmantissa
  rw [cutAt_mantissa, cutAt_mantissa, Prod.mk.injEq] at hcut'
  have hexponent : m.exponent = n.exponent := Option.map_injective scale_injective hscale
  cases m
  cases n
  simp_all

/-- A numeral that has a point or an exponent shows it. -/
lemma mark_mem_chars {n : Numeral} (h : n.places.isSome ∨ n.exponent.isSome) :
    '.' ∈ n.chars ∨ 'e' ∈ n.chars := by
  rcases h with h | h
  · obtain ⟨places, hplaces⟩ := Option.isSome_iff_exists.mp h
    exact Or.inl (by simp [chars, mantissa, hplaces])
  · obtain ⟨e, he⟩ := Option.isSome_iff_exists.mp h
    exact Or.inr (by simp [chars, he])

/-- A numeral is written with digits, signs and the two marks. -/
lemma mem_chars {n : Numeral} {c : Char} (h : c ∈ n.chars) :
    c.isDigit ∨ c ∈ ['.', 'e', '-', '+'] := by
  rw [chars, mantissa, List.mem_append, List.mem_append] at h
  rcases h with (h | h) | h
  · exact Or.inl (n.digits c (List.mem_append_left _ h))
  · cases hplaces : n.places with
    | none => simp [hplaces] at h
    | some places =>
        rw [hplaces, Option.elim_some, List.mem_cons] at h
        rcases h with rfl | h
        · exact Or.inr (by simp)
        · exact Or.inl (n.digits c (List.mem_append_right _ (by simpa [hplaces] using h)))
  · cases hexponent : n.exponent with
    | none => simp [hexponent] at h
    | some e =>
        rw [hexponent, Option.elim_some, scale, List.mem_cons, List.mem_cons] at h
        rcases h with rfl | rfl | h
        · exact Or.inr (by simp)
        · split_ifs <;> exact Or.inr (by simp)
        · exact Or.inl (isDigit_of_mem_toDigits h)

lemma exists_digit_cons (n : Numeral) : ∃ c cs, n.chars = c :: cs ∧ c.isDigit := by
  cases hw : n.whole with
  | nil => exact absurd hw n.whole_ne_nil
  | cons c rest =>
      refine ⟨c,
        (rest ++ n.places.elim [] ('.' :: ·)) ++ n.exponent.elim [] fun e => 'e' :: scale e,
        ?_, n.digits c (by simp [hw])⟩
      rw [chars, mantissa, hw, List.cons_append, List.cons_append]

end Numeral

namespace Double

open Decimal (digitCount)

/-! ## Both layouts write numerals -/

lemma isDigit_of_mem_replicate {n : ℕ} {c : Char} (h : c ∈ List.replicate n '0') : c.isDigit := by
  rw [List.eq_of_mem_replicate h]
  decide

section Layouts

variable {layout : Layout}

/-- A whole number in positional notation: its digits, the zeros that its exponent adds, and one
zero after the point. -/
lemma positionalChars_of_nonneg (hmark : layout.wholeMark = ['.', '0']) {s : Decimal}
    (hs : 0 ≤ s.exponent) :
    ∃ n : Numeral, positionalChars layout s = n.chars ∧ n.value = s.value ∧ n.places.isSome := by
  set zeros := List.replicate (if s.digits = 0 then 0 else s.exponent.toNat) '0' with hzeros
  have hdigits : ∀ c ∈ (Nat.toDigits 10 s.digits ++ zeros) ++ ['0'], c.isDigit := by
    intro c hc
    simp only [List.mem_append, List.mem_singleton] at hc
    rcases hc with (hc | hc) | rfl
    · exact isDigit_of_mem_toDigits hc
    · exact isDigit_of_mem_replicate hc
    · decide
  refine ⟨⟨Nat.toDigits 10 s.digits ++ zeros, some ['0'], none, by simp, hdigits⟩, ?_, ?_, rfl⟩
  · simp [positionalChars, hs, hmark, Numeral.chars, Numeral.mantissa, hzeros]
  · rw [Decimal.value_eq, Numeral.value]
    simp only [Option.getD_some, Option.getD_none, hzeros, Nat.ofDigitChars_append,
      Nat.ofDigitChars_ten_toDigits, Nat.ofDigitChars_replicate_zero]
    by_cases h0 : s.digits = 0
    · simp [h0, Nat.ofDigitChars_cons]
    · obtain ⟨n, hn⟩ : ∃ n : ℕ, s.exponent = n := ⟨s.exponent.toNat, by omega⟩
      simp only [h0, if_false, hn, Int.toNat_natCast, Nat.ofDigitChars_cons, Nat.ofDigitChars_nil,
        zpow_natCast, List.length_singleton]
      push_cast
      field_simp
      norm_num

/-- A number with a fraction in positional notation: the digits, with zeros in front where there are
too few of them, and the point among them. -/
lemma positionalChars_of_neg {s : Decimal} (hs : s.exponent < 0) :
    ∃ n : Numeral, positionalChars layout s = n.chars ∧ n.value = s.value ∧ n.places.isSome := by
  obtain ⟨places, hplaces⟩ : ∃ places : ℕ, s.exponent = -places := ⟨(-s.exponent).toNat, by omega⟩
  set digits := Nat.toDigits 10 s.digits with hd
  set padded := List.replicate (places + 1 - digits.length) '0' ++ digits with hpadded
  have hlen : places < padded.length := by
    rw [hpadded, List.length_append, List.length_replicate]
    omega
  have hall : ∀ c ∈ padded, c.isDigit := by
    intro c hc
    rcases List.mem_append.mp hc with hc | hc
    · exact isDigit_of_mem_replicate hc
    · exact isDigit_of_mem_toDigits hc
  set whole := padded.take (padded.length - places) with hwhole
  set after := padded.drop (padded.length - places) with hafter
  have hjoin : whole ++ after = padded := List.take_append_drop _ _
  have hne : whole ≠ [] := by
    intro h
    have := congrArg List.length h
    rw [hwhole, List.length_take, List.length_nil] at this
    omega
  have hafterlen : after.length = places := by
    rw [hafter, List.length_drop]
    omega
  refine ⟨⟨whole, some after, none, hne, by simpa [hjoin] using hall⟩, ?_, ?_, rfl⟩
  · have hneg : ¬ 0 ≤ s.exponent := by omega
    have hnat : (-s.exponent).toNat = places := by omega
    simp only [positionalChars, if_neg hneg, hnat, Numeral.chars, Numeral.mantissa,
      Option.elim_some, Option.elim_none, List.append_nil]
    rfl
  · rw [Decimal.value_eq, Numeral.value]
    simp only [Option.getD_some, Option.getD_none, hjoin, hafterlen, hplaces, zero_sub]
    rw [hpadded, Nat.ofDigitChars_append, Nat.ofDigitChars_replicate_zero, mul_zero, hd,
      Nat.ofDigitChars_ten_toDigits]

/-- A number with an exponent mark: one digit before the point, the others after it, and the place
of the first digit as the exponent. -/
lemma exponentChars_eq (s : Decimal) :
    ∃ n : Numeral, exponentChars s (s.exponent + (digitCount s.digits : ℤ) - 1) = n.chars
      ∧ n.value = s.value ∧ n.exponent.isSome := by
  have hall : ∀ c ∈ Nat.toDigits 10 s.digits, c.isDigit := fun c hc => isDigit_of_mem_toDigits hc
  have hvalue : Nat.ofDigitChars 10 (Nat.toDigits 10 s.digits) 0 = s.digits :=
    Nat.ofDigitChars_ten_toDigits
  have hne : Nat.toDigits 10 s.digits ≠ [] := Nat.toDigits_ne_nil
  rw [digitCount, exponentChars, Decimal.value_eq]
  generalize Nat.toDigits 10 s.digits = digits at *
  rcases digits with - | ⟨c, - | ⟨second, rest⟩⟩
  · exact absurd rfl hne
  · refine ⟨⟨[c], none, some (s.exponent + ([c].length : ℤ) - 1), by simp, by simpa using hall⟩,
      by simp [Numeral.chars, Numeral.mantissa, Numeral.scale], ?_, rfl⟩
    simp only [Numeral.value, Option.getD_none, Option.getD_some, List.append_nil, hvalue]
    simp
  · refine ⟨⟨[c], some (second :: rest),
        some (s.exponent + ((c :: second :: rest).length : ℤ) - 1), by simp, by simpa using hall⟩,
      by simp [Numeral.chars, Numeral.mantissa, Numeral.scale], ?_, rfl⟩
    simp only [Numeral.value, Option.getD_some, List.singleton_append, hvalue]
    congr 2
    simp only [List.length_cons]
    omega

/-! ## The text of a double -/

lemma shortest_abs (d : Double) : d.abs.shortest = d.shortest := rfl

/-- The text of a double without its sign is a numeral for the shortest decimal, with a point or an
exponent mark in it. -/
theorem exists_numeral (hmark : layout.wholeMark = ['.', '0']) (d : Double) :
    ∃ n : Numeral, d.abs.format layout = n.chars ∧ n.value = d.shortest.value
      ∧ (n.places.isSome ∨ n.exponent.isSome) := by
  rw [format, shortest_abs]
  set tenExponent := d.shortest.exponent + (digitCount d.shortest.digits : ℤ) - 1
  have hsign : (if d.abs.negative then ['-'] else []) = ([] : List Char) := rfl
  rw [hsign, List.nil_append]
  by_cases hpositional : layout.positional tenExponent
  · rw [if_pos hpositional]
    rcases lt_or_ge d.shortest.exponent 0 with hneg | hnonneg
    · obtain ⟨n, hn, hvalue, hplaces⟩ := positionalChars_of_neg hneg
      exact ⟨n, hn, hvalue, Or.inl hplaces⟩
    · obtain ⟨n, hn, hvalue, hplaces⟩ := positionalChars_of_nonneg hmark hnonneg
      exact ⟨n, hn, hvalue, Or.inl hplaces⟩
  · rw [if_neg hpositional]
    obtain ⟨n, hn, hvalue, hexponent⟩ := exponentChars_eq d.shortest
    exact ⟨n, hn, hvalue, Or.inr hexponent⟩

lemma format_eq (d : Double) :
    d.format layout = (if d.negative then ['-'] else []) ++ d.abs.format layout := rfl

/-- A double is written with digits, signs and the two marks. -/
lemma mem_format (hmark : layout.wholeMark = ['.', '0']) {d : Double} {c : Char}
    (h : c ∈ d.format layout) : c.isDigit ∨ c ∈ ['.', 'e', '-', '+'] := by
  obtain ⟨n, hn, -⟩ := exists_numeral hmark d
  rw [format_eq, List.mem_append, hn] at h
  rcases h with h | h
  · have hc : c = '-' := by
      split_ifs at h
      · simpa using h
      · simp at h
    exact Or.inr (by simp [hc])
  · exact Numeral.mem_chars h

/-- The text of a double is not the text of an integer. -/
lemma mark_mem_format (hmark : layout.wholeMark = ['.', '0']) (d : Double) :
    '.' ∈ d.format layout ∨ 'e' ∈ d.format layout := by
  obtain ⟨n, hn, -, hshown⟩ := exists_numeral hmark d
  rw [format_eq, hn]
  exact (Numeral.mark_mem_chars hshown).imp (List.mem_append_right _) (List.mem_append_right _)

lemma eq_of_abs_eq {d e : Double} (habs : d.abs = e.abs) (hsign : d.negative = e.negative) :
    d = e := by
  obtain ⟨negative, significand, exponent, hd⟩ := d
  obtain ⟨negative', significand', exponent', he⟩ := e
  simp only [abs, Double.mk.injEq, true_and] at habs hsign ⊢
  exact ⟨hsign, habs⟩

lemma abs_eq_of_format_abs_eq (hmark : layout.wholeMark = ['.', '0']) {d e : Double}
    (h : d.abs.format layout = e.abs.format layout) : d.abs = e.abs := by
  obtain ⟨m, hm, hmvalue, -⟩ := exists_numeral hmark d
  obtain ⟨n, hn, hnvalue, -⟩ := exists_numeral hmark e
  have hmn : m = n := Numeral.chars_injective (by rw [← hm, ← hn, h])
  exact abs_eq_of_value_shortest_eq (by rw [← hmvalue, ← hnvalue, hmn])

/-- The sign of a double is written in front of a digit, so it can be told from the first
character. -/
lemma negative_eq_of_format_eq (hmark : layout.wholeMark = ['.', '0']) {d e : Double}
    (h : d.format layout = e.format layout) : d.negative = e.negative := by
  obtain ⟨m, hm, -⟩ := exists_numeral hmark d
  obtain ⟨n, hn, -⟩ := exists_numeral hmark e
  obtain ⟨c, cs, hc, hcd⟩ := m.exists_digit_cons
  obtain ⟨c', cs', hc', hcd'⟩ := n.exists_digit_cons
  rw [format_eq d, format_eq e, hm, hn, hc, hc'] at h
  cases hd : d.negative <;> cases he : e.negative
  · rfl
  · simp only [hd, he, Bool.false_eq_true, if_false, if_true, List.nil_append,
      List.singleton_append, List.cons.injEq] at h
    rw [h.1] at hcd
    exact absurd hcd (by decide)
  · simp only [hd, he, Bool.false_eq_true, if_false, if_true, List.nil_append,
      List.singleton_append, List.cons.injEq] at h
    rw [← h.1] at hcd'
    exact absurd hcd' (by decide)
  · rfl

/-- **The text of a double is the text of no other double.** -/
theorem format_injective (hmark : layout.wholeMark = ['.', '0']) :
    Function.Injective fun d : Double => d.format layout := by
  intro d e h
  simp only at h
  have hsign := negative_eq_of_format_eq hmark h
  rw [format_eq d, format_eq e, hsign] at h
  exact eq_of_abs_eq (abs_eq_of_format_abs_eq hmark (List.append_cancel_left h)) hsign

end Layouts

end Double

end LintConfig
