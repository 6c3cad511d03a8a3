import Mathlib
import LintConfig.Toml.Printer

/-!
# Reading back strings, keys and integers

**Strings.**  A character is written as it is, or as an escape that stands for it (`escape_cases`),
so every string is read back (`readQuoted?_quote`).

**Keys.**  `readKey?_keyChars`: a key is read back whether it could stay bare or had to be quoted.

**Integers.**  A run of digits is read to its end, unless a sign for more digits stands there.  What
stands behind a value that was written never is one (`Ends`), so an integer that fits 64 bits is
read back, and not taken for the beginning of a date or of a float (`readScalar?_integerChars`).
-/

namespace LintConfig

namespace Toml

/-- The characters that stand behind a value which was written. -/
def endMarks : List Char := [',', ']', ' ', '\n']

/-- A text that ends what stands before it, because no value goes on in this way. -/
def Ends (rest : List Char) : Prop := ∃ c ∈ endMarks, ∃ cs, rest = c :: cs

/-- Pieces that are not empty are at least as long together as there are pieces. -/
lemma length_le_length_flatMap {α β : Type} {f : α → List β} {l : List α}
    (h : ∀ a ∈ l, f a ≠ []) : l.length ≤ (l.flatMap f).length := by
  induction l with
  | nil => exact le_rfl
  | cons a l ih =>
      rw [List.forall_mem_cons] at h
      have ha := List.length_pos_iff.2 h.1
      have hl := ih h.2
      rw [List.flatMap_cons, List.length_append, List.length_cons]
      omega

lemma skipBlanks_blank {cs : List Char} : skipBlanks (' ' :: cs) = skipBlanks cs := by
  rw [skipBlanks, if_pos (Or.inl rfl)]

lemma skipBlanks_of_ne {c : Char} {rest : List Char} (h : ¬ (c = ' ' ∨ c = '\t')) :
    skipBlanks (c :: rest) = c :: rest := by
  rw [skipBlanks, if_neg h]

/-! ## Strings -/

section Strings

variable {c : Char} {cs rest : List Char}

lemma hexDigit?_digitChar {n : ℕ} (h : n < 16) : hexDigit? (Nat.digitChar n) = some n := by
  have hall : ∀ n < 16, hexDigit? (Nat.digitChar n) = some n := by decide
  exact hall n h

/-- Two hexadecimal digits behind two zeros spell the code of a small character. -/
lemma readEscape?_hexEscape (h : c.toNat < 256) :
    readEscape? ((hexEscape c).tail ++ rest) = some (c, rest) := by
  have hhigh := hexDigit?_digitChar (n := c.toNat / 16) (by omega)
  have hlow := hexDigit?_digitChar (n := c.toNat % 16) (by omega)
  have hzero : hexDigit? '0' = some 0 := by decide
  have hcode : c.toNat / 16 * 16 + c.toNat % 16 = c.toNat := by omega
  have hvalid : c.toNat.isValidChar := c.valid
  simp only [hexEscape, List.tail_cons, List.cons_append, List.nil_append, readEscape?, readCode?,
    hzero, hhigh, hlow, Nat.zero_mul, Nat.add_zero, Nat.zero_add, hcode, if_pos hvalid,
    Char.ofNat_toNat]

/-- A character stands for itself, or there is an escape for it. -/
lemma escape_cases (c : Char) :
    (escape c = [c] ∧ c ≠ '"' ∧ c ≠ '\\' ∧ isPlain c)
      ∨ ∃ code, escape c = '\\' :: code ∧ ∀ rest, readEscape? (code ++ rest) = some (c, rest) := by
  rw [escape]
  split_ifs with hquote hback hfeed hreturn hplain
  · exact Or.inr ⟨['"'], rfl, fun rest => by rw [hquote]; rfl⟩
  · exact Or.inr ⟨['\\'], rfl, fun rest => by rw [hback]; rfl⟩
  · exact Or.inr ⟨['n'], rfl, fun rest => by rw [hfeed]; rfl⟩
  · exact Or.inr ⟨['r'], rfl, fun rest => by rw [hreturn]; rfl⟩
  · exact Or.inl ⟨rfl, hquote, hback, hplain⟩
  · -- what is left are control characters
    have hsmall : c.toNat < 256 := by
      simp only [isPlain, Bool.or_eq_true, Bool.and_eq_true, decide_eq_true_eq, not_or] at hplain
      omega
    exact Or.inr ⟨(hexEscape c).tail, rfl, fun rest => readEscape?_hexEscape hsmall⟩

lemma escape_ne_nil (c : Char) : escape c ≠ [] := by
  rcases escape_cases c with ⟨heq, -⟩ | ⟨code, heq, -⟩ <;> simp [heq]

/-- **The characters of a string are read back** up to the closing quote. -/
lemma readLineString?_flatMap_escape {fuel : ℕ} (h : cs.length < fuel) :
    readLineString? .basic fuel (cs.flatMap escape ++ '"' :: rest) = some (cs, rest) := by
  induction cs generalizing fuel with
  | nil =>
      obtain ⟨fuel, rfl⟩ := Nat.exists_eq_add_one_of_ne_zero (Nat.ne_of_gt h)
      rfl
  | cons c cs ih =>
      obtain ⟨fuel, rfl⟩ := Nat.exists_eq_add_one_of_ne_zero (Nat.ne_of_gt (Nat.zero_lt_of_lt h))
      have hread := ih (Nat.lt_of_succ_lt_succ h)
      rw [List.flatMap_cons, List.append_assoc]
      rcases escape_cases c with ⟨heq, hquote, hback, hplain⟩ | ⟨code, heq, hcode⟩
      · rw [heq, List.singleton_append, readLineString?, Quoting.mark, if_neg hquote,
          if_neg (fun hboth => hback hboth.1), if_pos hplain, hread, Option.map_some]
      · rw [heq, List.cons_append, readLineString?, if_neg (by decide), if_pos (by decide), hcode]
        dsimp only
        rw [hread, Option.map_some]

lemma quote_append (s : String) :
    quote s ++ rest = '"' :: (s.toList.flatMap escape ++ '"' :: rest) := by
  rw [quote, List.append_assoc, List.singleton_append, List.cons_append]

/-- **A string between double quotes is read back.** -/
lemma readQuoted?_quote (s : String) : readQuoted? (quote s ++ rest) = some (s, rest) := by
  have hfuel : s.toList.length < (s.toList.flatMap escape ++ '"' :: rest).length + 1 := by
    have hlength := length_le_length_flatMap fun c (_ : c ∈ s.toList) => escape_ne_nil c
    rw [List.length_append]
    omega
  rw [quote_append, readQuoted?]
  dsimp only
  rw [readLineString?_flatMap_escape hfuel, Option.map_some, String.ofList_toList]

/-- Behind the opening quote of a string there are no two more, unless one follows. -/
lemma readString?_quote (s : String) (hrest : rest.head? ≠ some '"') :
    readString? (quote s ++ rest) = some (s, rest) := by
  rw [readString?.eq_def]
  split
  · next heq =>
      -- three quotes would need another one behind the empty string
      rw [quote_append] at heq
      cases hs : s.toList with
      | nil =>
          rw [hs] at heq
          simp only [List.flatMap_nil, List.nil_append, List.cons.injEq, true_and] at heq
          rw [heq] at hrest
          exact absurd rfl hrest
      | cons c cs =>
          rw [hs, List.flatMap_cons] at heq
          rcases escape_cases c with ⟨hescape, hquote, -⟩ | ⟨code, hescape, -⟩
          · rw [hescape] at heq
            simp [hquote] at heq
          · rw [hescape] at heq
            simp at heq
  · next heq =>
      rw [quote_append] at heq
      simp at heq
  · exact readQuoted?_quote s

end Strings

/-! ## Keys -/

section Keys

variable {key : String} {rest : List Char}

/-- A key begins with a quote or with a character that may stand bare. -/
lemma exists_keyChars_eq (key : String) :
    ∃ c cs, keyChars key = c :: cs ∧ (c = '"' ∨ isBareKey c = true) := by
  rw [keyChars]
  split_ifs with hbare
  · cases hkey : key.toList with
    | nil => exact absurd (String.toList_eq_nil_iff.1 hkey) hbare.1
    | cons c cs =>
        rw [hkey, List.all_cons, Bool.and_eq_true] at hbare
        exact ⟨c, cs, rfl, Or.inr hbare.2.1⟩
  · exact ⟨'"', _, rfl, Or.inl rfl⟩

/-- A key begins with no other mark. -/
lemma ne_of_keyStart {c mark : Char} (h : c = '"' ∨ isBareKey c = true) (hquote : mark ≠ '"')
    (hbare : isBareKey mark = false) : c ≠ mark := by
  rintro rfl
  rcases h with rfl | h
  · exact hquote rfl
  · exact Bool.false_ne_true (hbare.symm.trans h)

/-- No blanks stand in front of a key. -/
lemma skipBlanks_keyChars (key : String) :
    skipBlanks (keyChars key ++ rest) = keyChars key ++ rest := by
  obtain ⟨c, cs, heq, hc⟩ := exists_keyChars_eq key
  rw [heq, List.cons_append, skipBlanks_of_ne]
  rintro (hblank | hblank)
  · exact ne_of_keyStart hc (by decide) rfl hblank
  · exact ne_of_keyStart hc (by decide) rfl hblank

/-- What stands behind a key is no part of it. -/
lemma readKeyPart?_keyChars (hrest : ∀ c ∈ rest.head?, isBareKey c = false) :
    readKeyPart? (keyChars key ++ rest) = some (key, rest) := by
  rw [keyChars]
  split_ifs with hbare
  · have hall : ∀ c ∈ key.toList, isBareKey c = true := List.all_eq_true.1 hbare.2
    have htake : (key.toList ++ rest).takeWhile isBareKey = key.toList := by
      rw [List.takeWhile_append_of_pos hall]
      cases rest with
      | nil => rw [List.takeWhile_nil, List.append_nil]
      | cons c cs => rw [List.takeWhile_cons_of_neg (by simp [hrest c rfl]), List.append_nil]
    have hdrop : (key.toList ++ rest).dropWhile isBareKey = rest := by
      rw [List.dropWhile_append_of_pos hall]
      cases rest with
      | nil => rfl
      | cons c cs => rw [List.dropWhile_cons_of_neg (by simp [hrest c rfl])]
    obtain ⟨c, cs, hkey⟩ : ∃ c cs, key.toList = c :: cs :=
      List.exists_cons_of_ne_nil fun hnil => hbare.1 (String.toList_eq_nil_iff.1 hnil)
    have hc : isBareKey c = true := hall c (by simp [hkey])
    have hname : String.ofList (c :: cs) = key := by rw [← hkey, String.ofList_toList]
    rw [hkey] at htake hdrop ⊢
    rw [readKeyPart?.eq_def]
    split
    -- a quote could not stand bare
    · next heq =>
        rw [(List.cons.inj heq).1] at hc
        exact nomatch hc
    · next heq =>
        rw [(List.cons.inj heq).1] at hc
        exact nomatch hc
    · rw [htake, hdrop]
      dsimp only
      rw [hname]
  · exact readQuoted?_quote key

/-- **A key is read back**, with the blanks behind it skipped, unless more parts follow. -/
lemma readKey?_keyChars (hrest : ∀ c ∈ rest.head?, isBareKey c = false)
    (hlast : (skipBlanks rest).head? ≠ some '.') :
    readKey? (keyChars key ++ rest) = some (⟨[], key⟩, skipBlanks rest) := by
  have hparts : ∀ fuel, readKeyParts? (fuel + 1) (keyChars key ++ rest)
      = some ([key], skipBlanks rest) := by
    intro fuel
    rw [readKeyParts?, skipBlanks_keyChars, readKeyPart?_keyChars hrest]
    dsimp only
    split
    · next heq =>
        rw [heq] at hlast
        exact absurd rfl hlast
    · rfl
  have hlimit : nestingLimit = 78 + 1 := rfl
  rw [readKey?, hlimit, hparts]
  rfl

end Keys

/-! ## Integers -/

section Integers

variable {c : Char} {cs ds rest : List Char} {n : ℕ}

lemma digit?_of_isDigit (h : c.isDigit = true) : digit? c = some (c.toNat - '0'.toNat) := by
  rw [Char.isDigit_iff_toNat] at h
  rw [digit?, if_pos]
  exact ⟨h.1, h.2⟩

lemma digit?_of_not_isDigit (h : c.isDigit = false) : digit? c = none := by
  rw [digit?, if_neg]
  rintro ⟨hlow, hhigh⟩
  exact Bool.false_ne_true (h.symm.trans (Char.isDigit_iff_toNat.2 ⟨hlow, hhigh⟩))

/-- A digit goes on with the next character if that is one too. -/
lemma readRun?_pair {e : Char} (hc : c.isDigit = true) (he : e ≠ '_') :
    readRun? digit? (c :: e :: cs)
      = if (digit? e).isSome then
          (readRun? digit? (e :: cs)).map fun run => ((c.toNat - '0'.toNat) :: run.1, run.2)
        else some ([c.toNat - '0'.toNat], e :: cs) := by
  rw [readRun?.eq_def]
  dsimp only
  rw [digit?_of_isDigit hc]
  dsimp only
  split
  · next heq => exact nomatch heq
  · next heq => exact absurd (List.cons.inj heq).1 he
  · next heq =>
      obtain ⟨rfl, rfl⟩ := List.cons.inj heq
      rfl

/-- A run of digits is read to its end. -/
lemma readRun?_digits (hne : ds ≠ []) (hds : ∀ d ∈ ds, d.isDigit = true) (hc : c.isDigit = false)
    (hunder : c ≠ '_') :
    readRun? digit? (ds ++ c :: cs) = some (ds.map fun d => d.toNat - '0'.toNat, c :: cs) := by
  induction ds with
  | nil => exact absurd rfl hne
  | cons d ds ih =>
      have hd : d.isDigit = true := hds d List.mem_cons_self
      cases ds with
      | nil =>
          rw [List.singleton_append, readRun?_pair hd hunder, digit?_of_not_isDigit hc]
          rfl
      | cons e es =>
          have he : e.isDigit = true := hds e (by simp)
          have hne : e ≠ '_' := by
            rintro rfl
            exact nomatch he
          have hrun := ih (by simp) fun d hd => hds d (List.mem_cons_of_mem _ hd)
          rw [List.cons_append] at hrun
          rw [List.cons_append, List.cons_append, readRun?_pair hd hne, digit?_of_isDigit he, hrun]
          rfl

/-- The digits of a number do not begin with a zero, unless it is zero. -/
lemma head?_toDigits (h : n ≠ 0) : (Nat.toDigits 10 n).head? ≠ some '0' := by
  induction n using Nat.strong_induction_on with
  | _ n ih =>
      rw [Nat.toDigits_eq_if (by norm_num)]
      split_ifs with hlt
      · have hall : ∀ n < 10, n ≠ 0 → [n.digitChar].head? ≠ some '0' := by decide
        exact hall n hlt h
      · rw [List.head?_append_of_ne_nil _ Nat.toDigits_ne_nil]
        exact ih (n / 10) (by omega) (by omega)

/-- What is left of digits after some of them begins with a digit or with what stands behind. -/
lemma exists_of_readFixed? {count before m : ℕ} {r : List Char} (hds : ∀ d ∈ ds, d.isDigit = true)
    (hc : c.isDigit = false) (h : readFixed? count before (ds ++ c :: cs) = some (m, r)) :
    ∃ es, (∀ d ∈ es, d.isDigit = true) ∧ r = es ++ c :: cs := by
  induction count generalizing before ds with
  | zero =>
      rw [readFixed?] at h
      exact ⟨ds, hds, (Prod.mk.inj (Option.some.inj h)).2.symm⟩
  | succ count ih =>
      cases ds with
      | nil =>
          rw [List.nil_append, readFixed?, digit?_of_not_isDigit hc] at h
          exact nomatch h
      | cons d ds =>
          rw [List.cons_append, readFixed?, digit?_of_isDigit (hds d List.mem_cons_self)] at h
          exact ih (fun d hd => hds d (List.mem_cons_of_mem _ hd)) h

lemma expectChar?_digits {mark : Char} (hmark : mark.isDigit = false) (hne : c ≠ mark)
    (hds : ∀ d ∈ ds, d.isDigit = true) : expectChar? mark (ds ++ c :: cs) = none := by
  cases ds with
  | nil => rw [List.nil_append, expectChar?, if_neg hne]
  | cons d ds =>
      rw [List.cons_append, expectChar?, if_neg]
      rintro rfl
      exact Bool.false_ne_true (hmark.symm.trans (hds d List.mem_cons_self))

/-- **Digits alone are no date and no time.** -/
lemma dateTimeRead?_digits (hds : ∀ d ∈ ds, d.isDigit = true) (hc : c.isDigit = false)
    (hmarks : c ≠ '-' ∧ c ≠ ':') : DateTime.read? (ds ++ c :: cs) = none := by
  have hdate : Date.read? (ds ++ c :: cs) = none := by
    rw [Date.read?]
    cases hyear : readFixed? 4 0 (ds ++ c :: cs) with
    | none => rfl
    | some year =>
        obtain ⟨es, hes, heq⟩ := exists_of_readFixed? hds hc hyear
        simp [heq, expectChar?_digits (by decide) hmarks.1 hes]
  have htime : Time.read? (ds ++ c :: cs) = none := by
    rw [Time.read?, readTwo?]
    cases hhour : readFixed? 2 0 (ds ++ c :: cs) with
    | none => rfl
    | some hour =>
        obtain ⟨es, hes, heq⟩ := exists_of_readFixed? hds hc hhour
        simp only [Option.bind_eq_bind, Option.bind_some]
        split_ifs
        · simp [heq, expectChar?_digits (by decide) hmarks.2 hes]
        · rfl
  rw [DateTime.read?, hdate, htime]
  rfl

/-- The digits of a number spell it. -/
lemma ofDigits_toDigits (n : ℕ) :
    ofDigits 10 ((Nat.toDigits 10 n).map fun d => d.toNat - '0'.toNat) = n := by
  have hstep : (fun (m : ℕ) (d : Char) => m * 10 + (d.toNat - '0'.toNat))
      = fun m d => 10 * m + (d.toNat - '0'.toNat) := by
    funext m d
    rw [Nat.mul_comm]
  rw [ofDigits, List.foldl_map, hstep]
  exact Nat.ofDigitChars_ten_toDigits

lemma isDigit_of_mem_digits {d : Char} (h : d ∈ Nat.toDigits 10 n) : d.isDigit = true :=
  Nat.isDigit_of_mem_toDigits (by norm_num) (by norm_num) h

/-- All digits of a number stand before the point. -/
lemma readWhole?_toDigits (hc : c.isDigit = false) (hunder : c ≠ '_') :
    readWhole? (Nat.toDigits 10 n ++ c :: cs)
      = some ((Nat.toDigits 10 n).map fun d => d.toNat - '0'.toNat, c :: cs) := by
  by_cases hn : n = 0
  · rw [hn, Nat.toDigits_zero]
    rfl
  · have hhead := head?_toDigits hn
    rw [readWhole?.eq_def]
    split
    · next heq =>
        rw [← List.head?_append_of_ne_nil _ Nat.toDigits_ne_nil, heq] at hhead
        exact absurd rfl hhead
    · exact readRun?_digits Nat.toDigits_ne_nil (fun _ => isDigit_of_mem_digits) hc hunder

/-- **A whole number is read back**, if 64 bits hold it with its sign. -/
lemma readDecimal?_toDigits (negative : Bool) (hrest : Ends rest) :
    readDecimal? negative (Nat.toDigits 10 n ++ rest)
      = (integer? (signed negative n)).map fun v => (v, rest) := by
  obtain ⟨c, hc, cs, rfl⟩ := hrest
  have hmark : ∀ c ∈ endMarks, c.isDigit = false ∧ c ≠ '_' ∧ c ≠ '.' ∧ ¬ (c = 'e' ∨ c = 'E') := by
    simp [endMarks]
  obtain ⟨hdigit, hunder, hpoint, hpower⟩ := hmark c hc
  have hplaces : readPlaces? (c :: cs) = some (none, c :: cs) := by
    rw [readPlaces?.eq_def]
    split
    · next heq => exact absurd (List.cons.inj heq).1 hpoint
    · rfl
  rw [readDecimal?, readWhole?_toDigits hdigit hunder]
  simp only [Option.bind_eq_bind, Option.bind_some, hplaces, readPower?, if_neg hpower,
    Option.isNone_none, and_self, if_true, ofDigits_toDigits]

/-- Behind a zero in front of everything there is no base mark. -/
lemma mem_endMarks_of_zero {mark : Char} {r : List Char} (hrest : Ends rest)
    (h : Nat.toDigits 10 n ++ rest = '0' :: mark :: r) : mark ∈ endMarks := by
  by_cases hn : n = 0
  · rw [hn, Nat.toDigits_zero, List.singleton_append] at h
    obtain ⟨c, hc, cs, hcs⟩ := hrest
    rw [hcs] at h
    rwa [← (List.cons.inj (List.cons.inj h).2).1]
  · have hhead := head?_toDigits hn
    rw [← List.head?_append_of_ne_nil _ Nat.toDigits_ne_nil, h] at hhead
    exact absurd rfl hhead

/-- A text that begins with a number begins with a digit. -/
lemma isDigit_of_digits_eq {d : Char} {r : List Char} (h : Nat.toDigits 10 n ++ rest = d :: r) :
    d.isDigit = true := by
  have hhead : (Nat.toDigits 10 n ++ rest).head? = some d := by
    rw [h]
    rfl
  rw [List.head?_append_of_ne_nil _ Nat.toDigits_ne_nil] at hhead
  exact isDigit_of_mem_digits (List.mem_of_mem_head? hhead)

/-- The digits behind a sign are no name of a float. -/
lemma readNumber?_signed {cs : List Char} {negative : Bool} (hrest : Ends rest)
    (hsign : readSign cs = (negative, Nat.toDigits 10 n ++ rest))
    (hbase : ∀ mark r, cs = '0' :: mark :: r → mark ∈ endMarks) :
    readNumber? cs = (integer? (signed negative n)).map fun v => (v, rest) := by
  rw [readNumber?.eq_def]
  split
  · exact absurd (hbase _ _ rfl) (by simp [endMarks])
  · exact absurd (hbase _ _ rfl) (by simp [endMarks])
  · exact absurd (hbase _ _ rfl) (by simp [endMarks])
  · rw [hsign]
    split
    · next heq => exact nomatch isDigit_of_digits_eq (Prod.mk.inj heq).2
    · next heq => exact nomatch isDigit_of_digits_eq (Prod.mk.inj heq).2
    · next heq =>
        obtain ⟨rfl, rfl⟩ := Prod.mk.inj heq
        exact readDecimal?_toDigits negative hrest

lemma readSign_digits :
    readSign (Nat.toDigits 10 n ++ rest) = (false, Nat.toDigits 10 n ++ rest) := by
  rw [readSign.eq_def]
  split
  · next heq => exact nomatch isDigit_of_digits_eq heq
  · next heq => exact nomatch isDigit_of_digits_eq heq
  · rfl

/-- **An integer is read back**, if 64 bits hold it. -/
lemma readScalar?_integerChars {i : ℤ} (hlow : -0x8000000000000000 ≤ i)
    (hhigh : i < 0x8000000000000000) (hrest : Ends rest) :
    readScalar? (integerChars i ++ rest) = some (.integer i, rest) := by
  have hinteger : integer? i = some (.integer i) := by rw [integer?, if_pos ⟨hlow, hhigh⟩]
  rw [integerChars, List.append_assoc]
  split_ifs with hneg
  · -- a minus begins neither a date nor a time
    have hdate : ∀ cs, DateTime.read? ('-' :: cs) = none := fun cs => rfl
    have hsigned : signed true i.natAbs = i := by
      rw [signed, if_pos rfl]
      omega
    have hsign : readSign ('-' :: (Nat.toDigits 10 i.natAbs ++ rest))
        = (true, Nat.toDigits 10 i.natAbs ++ rest) := rfl
    have hnumber := readNumber?_signed hrest hsign fun mark r h =>
      absurd (List.cons.inj h).1 (by decide)
    rw [hsigned, hinteger] at hnumber
    rw [List.singleton_append, readScalar?.eq_def]
    dsimp only
    rw [hdate, hnumber]
    rfl
  · have hsigned : signed false i.natAbs = i := by
      rw [signed, if_neg Bool.false_ne_true]
      omega
    have hdate : DateTime.read? (Nat.toDigits 10 i.natAbs ++ rest) = none := by
      obtain ⟨c, hc, cs, rfl⟩ := hrest
      have hmark : ∀ c ∈ endMarks, c.isDigit = false ∧ c ≠ '-' ∧ c ≠ ':' := by simp [endMarks]
      exact dateTimeRead?_digits (fun _ => isDigit_of_mem_digits) (hmark c hc).1 (hmark c hc).2
    have hnumber := readNumber?_signed hrest (readSign_digits (n := i.natAbs)) fun mark r =>
      mem_endMarks_of_zero hrest
    rw [hsigned, hinteger] at hnumber
    rw [List.nil_append, readScalar?.eq_def]
    split
    · next heq => exact nomatch isDigit_of_digits_eq heq
    · next heq => exact nomatch isDigit_of_digits_eq heq
    · next heq => exact nomatch isDigit_of_digits_eq heq
    · next heq => exact nomatch isDigit_of_digits_eq heq
    · rw [hdate]
      exact hnumber

end Integers

end Toml

end LintConfig
