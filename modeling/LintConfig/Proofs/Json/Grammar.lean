import Mathlib
import LintConfig.Json.Document

/-!
# The grammar of JSON texts

Which characters write a document, rule by rule and without an order of reading.  Every rule says
what a text is put together from, so the relations are the same whatever stands before and behind.

**Tokens.**  `Blanks`, `Digits`, `Number` and `Units` are the parts without structure.  The tables
of digits and short escapes are those of the reader; where a token ends is not.

**Values.**  `Value`, `Element`, `Elements`, `Member` and `Members` follow the grammar of JSON:
blanks stand around an element, around the name of a member and in an empty pair of brackets.

**Reading tokens.**  A reader takes the longest token.  What it takes is one
(`exists_number_of_readNumber?`, `exists_units_of_readString?`), and it takes a token that does not
go on behind its end (`readNumber?_append`, `readString?_append`).
-/

namespace LintConfig

namespace Grammar

/-! ## Tokens -/

/-- A run of blanks, possibly empty. -/
def Blanks (cs : List Char) : Prop := ∀ c ∈ cs, c = ' ' ∨ c = '\t' ∨ c = '\n' ∨ c = '\r'

/-- A run of decimal digits with their values. -/
def Digits (ds : List ℕ) (cs : List Char) : Prop :=
  List.Forall₂ (fun d c => Document.digit? c = some d) ds cs

/-- The digits before a point: zero alone, or a run that does not begin with zero. -/
inductive Whole : List ℕ → List Char → Prop where
  | zero : Whole [0] ['0']
  | digits {ds : List ℕ} {c : Char} {cs : List Char} :
      c ≠ '0' → Digits ds (c :: cs) → Whole ds (c :: cs)

/-- A point with digits behind it, or nothing. -/
inductive Fraction : Option (List ℕ) → List Char → Prop where
  | absent : Fraction none []
  | present {ds : List ℕ} {cs : List Char} :
      ds ≠ [] → Digits ds cs → Fraction (some ds) ('.' :: cs)

/-- The sign of an exponent, and whether it is a minus. -/
inductive Sign : Bool → List Char → Prop where
  | absent : Sign false []
  | plus : Sign false ['+']
  | minus : Sign true ['-']

/-- The number with these digits. -/
def signed (negative : Bool) (ds : List ℕ) : ℤ :=
  let n : ℕ := ds.foldl (fun n d => n * 10 + d) 0
  if negative then -(n : ℤ) else n

/-- An exponent, or nothing. -/
inductive Exponent : Option ℤ → List Char → Prop where
  | absent : Exponent none []
  | present {mark : Char} {negative : Bool} {sign : List Char} {ds : List ℕ} {cs : List Char} :
      mark = 'e' ∨ mark = 'E' → Sign negative sign → ds ≠ [] → Digits ds cs →
      Exponent (some (signed negative ds)) (mark :: sign ++ cs)

/-- A number: an optional minus, digits, a fraction and an exponent. -/
def Number (l : NumberLiteral) (cs : List Char) : Prop :=
  ∃ whole fraction exponent,
    cs = (if l.negative then ['-'] else []) ++ whole ++ fraction ++ exponent
      ∧ Whole l.whole whole ∧ Fraction l.fraction fraction ∧ Exponent l.exponent exponent

/-- What stands between the quotes of a string. -/
inductive Units : List TextUnit → List Char → Prop where
  | nil : Units [] []
  | plain {c : Char} {us : List TextUnit} {cs : List Char} :
      c ≠ '"' → c ≠ '\\' → 32 ≤ c.toNat → Units us cs → Units (.char c :: us) (c :: cs)
  | short {e c : Char} {us : List TextUnit} {cs : List Char} :
      Document.shortEscape? e = some c → Units us cs → Units (.char c :: us) ('\\' :: e :: cs)
  | code {w x y z : Char} {w' x' y' z' : ℕ} {us : List TextUnit} {cs : List Char} :
      Document.hexDigit? w = some w' → Document.hexDigit? x = some x' →
      Document.hexDigit? y = some y' → Document.hexDigit? z = some z' → Units us cs →
      Units (.code (((w' * 16 + x') * 16 + y') * 16 + z') :: us)
        ('\\' :: 'u' :: w :: x :: y :: z :: cs)

/-! ## Values -/

mutual

/-- A value without blanks around it. -/
inductive Value : Document → List Char → Prop where
  | null : Value .null ['n', 'u', 'l', 'l']
  | yes : Value (.bool true) ['t', 'r', 'u', 'e']
  | no : Value (.bool false) ['f', 'a', 'l', 's', 'e']
  | num {l : NumberLiteral} {cs : List Char} : Number l cs → Value (.num l) cs
  | str {us : List TextUnit} {cs : List Char} : Units us cs → Value (.str us) ('"' :: cs ++ ['"'])
  | emptyArr {w : List Char} : Blanks w → Value (.arr []) ('[' :: w ++ [']'])
  | arr {ds : List Document} {cs : List Char} :
      Elements ds cs → Value (.arr ds) ('[' :: cs ++ [']'])
  | emptyObj {w : List Char} : Blanks w → Value (.obj []) ('\x7b' :: w ++ ['\x7d'])
  | obj {ms : List (List TextUnit × Document)} {cs : List Char} :
      Members ms cs → Value (.obj ms) ('\x7b' :: cs ++ ['\x7d'])

/-- A value with blanks around it. -/
inductive Element : Document → List Char → Prop where
  | mk {d : Document} {w cs w' : List Char} :
      Blanks w → Value d cs → Blanks w' → Element d (w ++ cs ++ w')

/-- Elements with commas between them, at least one. -/
inductive Elements : List Document → List Char → Prop where
  | one {d : Document} {cs : List Char} : Element d cs → Elements [d] cs
  | cons {d : Document} {ds : List Document} {cs rest : List Char} :
      Element d cs → Elements ds rest → Elements (d :: ds) (cs ++ ',' :: rest)

/-- A name, a colon and an element. -/
inductive Member : List TextUnit × Document → List Char → Prop where
  | mk {us : List TextUnit} {d : Document} {w name w' cs : List Char} :
      Blanks w → Units us name → Blanks w' → Element d cs →
      Member (us, d) (w ++ '"' :: name ++ '"' :: w' ++ ':' :: cs)

/-- Members with commas between them, at least one. -/
inductive Members : List (List TextUnit × Document) → List Char → Prop where
  | one {m : List TextUnit × Document} {cs : List Char} : Member m cs → Members [m] cs
  | cons {m : List TextUnit × Document} {ms : List (List TextUnit × Document)}
      {cs rest : List Char} :
      Member m cs → Members ms rest → Members (m :: ms) (cs ++ ',' :: rest)

end

/-! ## Reading blanks and digits -/

section Runs

variable {c : Char} {cs w rest : List Char}

lemma blanks_nil : Blanks [] := fun _ hc => absurd hc List.not_mem_nil

lemma Blanks.append (h : Blanks w) (h' : Blanks cs) : Blanks (w ++ cs) :=
  List.forall_mem_append.2 ⟨h, h'⟩

lemma exists_skipBlanks (cs : List Char) : ∃ w, Blanks w ∧ cs = w ++ Document.skipBlanks cs := by
  induction cs with
  | nil => exact ⟨[], blanks_nil, rfl⟩
  | cons c cs ih =>
      rw [Document.skipBlanks]
      split_ifs with hblank
      · obtain ⟨w, hw, heq⟩ := ih
        exact ⟨c :: w, List.forall_mem_cons.2 ⟨hblank, hw⟩, by rw [List.cons_append, ← heq]⟩
      · exact ⟨[], blanks_nil, rfl⟩

lemma skipBlanks_append (h : Blanks w) (rest : List Char) :
    Document.skipBlanks (w ++ rest) = Document.skipBlanks rest := by
  induction w with
  | nil => rfl
  | cons c w ih =>
      obtain ⟨hblank, hw⟩ := List.forall_mem_cons.1 h
      rw [List.cons_append, Document.skipBlanks, if_pos hblank, ih hw]

end Runs

section Digits

variable {ds : List ℕ} {cs rest : List Char}

/-- A text that does not go on with a digit. -/
def NoDigit (cs : List Char) : Prop := ∀ c ∈ cs.head?, Document.digit? c = none

lemma noDigit_cons {c : Char} (hc : Document.digit? c = none) (cs : List Char) :
    NoDigit (c :: cs) := by
  simpa [NoDigit] using hc

lemma exists_digits_of_readDigits (cs : List Char) :
    ∃ digits, cs = digits ++ (Document.readDigits cs).2
      ∧ Digits (Document.readDigits cs).1 digits := by
  induction cs with
  | nil => exact ⟨[], rfl, List.Forall₂.nil⟩
  | cons c cs ih =>
      obtain ⟨digits, heq, hdigits⟩ := ih
      rw [Document.readDigits]
      cases hc : Document.digit? c with
      | none => exact ⟨[], rfl, List.Forall₂.nil⟩
      | some d =>
          exact ⟨c :: digits, congrArg (c :: ·) heq, List.Forall₂.cons hc hdigits⟩

lemma readDigits_append (h : Digits ds cs) (hrest : NoDigit rest) :
    Document.readDigits (cs ++ rest) = (ds, rest) := by
  induction h with
  | nil =>
      cases rest with
      | nil => rfl
      | cons c rest =>
          have hc : Document.digit? c = none := hrest c rfl
          rw [List.nil_append, Document.readDigits, hc]
  | cons hc _ ih =>
      rw [List.cons_append, Document.readDigits, hc]
      simp only [ih]

lemma readDigits1?_eq_some (h : Document.readDigits1? cs = some (ds, rest)) :
    ds ≠ [] ∧ ∃ digits, cs = digits ++ rest ∧ Digits ds digits := by
  obtain ⟨digits, heq, hdigits⟩ := exists_digits_of_readDigits cs
  rw [Document.readDigits1?] at h
  split at h
  · exact nomatch h
  · next hne =>
      rw [Option.some.inj h] at heq hdigits
      refine ⟨?_, digits, heq, hdigits⟩
      rintro rfl
      exact hne _ (Option.some.inj h)

lemma readDigits1?_append (hne : ds ≠ []) (h : Digits ds cs) (hrest : NoDigit rest) :
    Document.readDigits1? (cs ++ rest) = some (ds, rest) := by
  rw [Document.readDigits1?, readDigits_append h hrest]
  cases ds with
  | nil => exact absurd rfl hne
  | cons d ds => rfl

end Digits

/-! ## Reading numbers -/

section Numbers

variable {l : NumberLiteral} {negative : Bool} {ds : List ℕ} {part : Option (List ℕ)}
  {exponent : Option ℤ} {cs rest : List Char}

lemma exists_whole_of_readWhole? (h : Document.readWhole? cs = some (ds, rest)) :
    ∃ whole, cs = whole ++ rest ∧ Whole ds whole := by
  rw [Document.readWhole?.eq_def] at h
  split at h
  · next c cs =>
      split_ifs at h
      obtain ⟨rfl, rfl⟩ := Prod.mk.inj (Option.some.inj h)
      exact ⟨['0'], rfl, Whole.zero⟩
  · next hzero =>
      obtain ⟨hne, whole, rfl, hdigits⟩ := readDigits1?_eq_some h
      cases hdigits with
      | nil => exact absurd rfl hne
      | @cons d c ds whole hc hdigits =>
          refine ⟨c :: whole, rfl, ?_⟩
          by_cases hc0 : c = '0'
          · -- a zero in front is alone, and so is the text
            subst hc0
            cases hwhole : whole ++ rest with
            | nil =>
                obtain ⟨rfl, rfl⟩ := List.append_eq_nil_iff.1 hwhole
                obtain rfl := List.forall₂_nil_right_iff.1 hdigits
                obtain rfl := Option.some.inj (hc.symm.trans (by decide : _ = some 0))
                exact Whole.zero
            | cons c' cs' => exact absurd (congrArg ('0' :: ·) hwhole) (hzero c' cs')
          · exact Whole.digits hc0 (List.Forall₂.cons hc hdigits)

lemma readWhole?_append (h : Whole ds cs) (hrest : NoDigit rest) :
    Document.readWhole? (cs ++ rest) = some (ds, rest) := by
  cases h with
  | zero =>
      cases rest with
      | nil => rfl
      | cons c rest =>
          have hc : Document.digit? c = none := hrest c rfl
          simp [Document.readWhole?, hc]
  | @digits _ c cs hc hdigits =>
      have hne : ds ≠ [] := by
        rintro rfl
        cases hdigits
      rw [← readDigits1?_append hne hdigits hrest, List.cons_append]
      exact Document.readWhole?.eq_2 _ (fun c' cs' heq => hc (List.cons.inj heq).1)

lemma exists_fraction_of_readFraction? (h : Document.readFraction? cs = some (part, rest)) :
    ∃ fraction, cs = fraction ++ rest ∧ Fraction part fraction := by
  rw [Document.readFraction?.eq_def] at h
  split at h
  · next cs =>
      obtain ⟨⟨ds, r⟩, hread, heq⟩ := Option.map_eq_some_iff.1 h
      obtain ⟨rfl, rfl⟩ := Prod.mk.inj heq
      obtain ⟨hne, digits, rfl, hdigits⟩ := readDigits1?_eq_some hread
      exact ⟨'.' :: digits, rfl, Fraction.present hne hdigits⟩
  · obtain ⟨rfl, rfl⟩ := Prod.mk.inj (Option.some.inj h)
    exact ⟨[], rfl, Fraction.absent⟩

lemma readFraction?_append (h : Fraction part cs) (hrest : NoDigit rest)
    (hpoint : rest.head? ≠ some '.') :
    Document.readFraction? (cs ++ rest) = some (part, rest) := by
  cases h with
  | absent =>
      refine Document.readFraction?.eq_2 rest (fun rest' heq => hpoint ?_)
      rw [heq]
      rfl
  | present hne hdigits =>
      rw [List.cons_append, Document.readFraction?, readDigits1?_append hne hdigits hrest]
      rfl

lemma exists_exponent_of_readExponent? (h : Document.readExponent? cs = some (exponent, rest)) :
    ∃ chars, cs = chars ++ rest ∧ Exponent exponent chars := by
  rw [Document.readExponent?.eq_def] at h
  split at h
  · obtain ⟨rfl, rfl⟩ := Prod.mk.inj (Option.some.inj h)
    exact ⟨[], rfl, Exponent.absent⟩
  · next c cs =>
      split_ifs at h with hmark
      · split at h
        next negative digits hsplit =>
          have hsign : ∃ sign, cs = sign ++ digits ∧ Sign negative sign := by
            split at hsplit
            · obtain ⟨rfl, rfl⟩ := Prod.mk.inj hsplit
              exact ⟨_, rfl, Sign.minus⟩
            · obtain ⟨rfl, rfl⟩ := Prod.mk.inj hsplit
              exact ⟨_, rfl, Sign.plus⟩
            · obtain ⟨rfl, rfl⟩ := Prod.mk.inj hsplit
              exact ⟨_, rfl, Sign.absent⟩
          obtain ⟨sign, rfl, hsign⟩ := hsign
          obtain ⟨⟨ds, r⟩, hread, heq⟩ := Option.map_eq_some_iff.1 h
          obtain ⟨rfl, rfl⟩ := Prod.mk.inj heq
          obtain ⟨hne, digits, rfl, hdigits⟩ := readDigits1?_eq_some hread
          refine ⟨c :: sign ++ digits, ?_, Exponent.present hmark hsign hne hdigits⟩
          rw [List.cons_append, List.cons_append, List.append_assoc]
      · obtain ⟨rfl, rfl⟩ := Prod.mk.inj (Option.some.inj h)
        exact ⟨[], rfl, Exponent.absent⟩

/-- A digit is no character of another kind. -/
lemma ne_of_digit {c k : Char} {d : ℕ} (h : Document.digit? c = some d)
    (hk : Document.digit? k = none) : c ≠ k := by
  rintro rfl
  rw [hk] at h
  exact nomatch h

lemma readExponent?_append (h : Exponent exponent cs) (hrest : NoDigit rest)
    (hsmall : rest.head? ≠ some 'e') (hcapital : rest.head? ≠ some 'E') :
    Document.readExponent? (cs ++ rest) = some (exponent, rest) := by
  cases h with
  | absent =>
      cases rest with
      | nil => rfl
      | cons c rest =>
          have hmark : ¬ (c = 'e' ∨ c = 'E') := by
            rintro (rfl | rfl)
            · exact hsmall rfl
            · exact hcapital rfl
          rw [List.nil_append, Document.readExponent?.eq_def]
          simp only [hmark, if_false]
  | @present mark negative sign ds digits hmark hsign hne hdigits =>
      have hread := readDigits1?_append hne hdigits hrest
      rw [List.cons_append, List.cons_append, List.append_assoc]
      cases hsign with
      | minus =>
          rw [List.singleton_append, Document.readExponent?.eq_2, if_pos hmark, hread]
          rfl
      | plus =>
          rw [List.singleton_append, Document.readExponent?.eq_3, if_pos hmark, hread]
          rfl
      | absent =>
          -- the first digit is not taken for a sign
          have hfirst : ∀ k, Document.digit? k = none → ∀ r, digits ++ rest ≠ k :: r := by
            intro k hk r heq
            cases hdigits with
            | nil => exact hne rfl
            | cons hd _ => exact ne_of_digit hd hk (List.cons.inj heq).1
          rw [List.nil_append, Document.readExponent?.eq_4 _ _ (hfirst '-' (by decide))
            (hfirst '+' (by decide)), if_pos hmark, hread]
          rfl

/-- A text that does not go on with a number. -/
def EndsNumber (cs : List Char) : Prop :=
  NoDigit cs ∧ cs.head? ≠ some '.' ∧ cs.head? ≠ some 'e' ∧ cs.head? ≠ some 'E'

lemma exists_number_of_readNumber? (h : Document.readNumber? cs = some (l, rest)) :
    ∃ number, cs = number ++ rest ∧ Number l number := by
  rw [Document.readNumber?.eq_def] at h
  split at h
  next negative unsigned hsplit =>
    have hminus : cs = (if negative then ['-'] else []) ++ unsigned := by
      split at hsplit
      · obtain ⟨rfl, rfl⟩ := Prod.mk.inj hsplit
        rfl
      · obtain ⟨rfl, rfl⟩ := Prod.mk.inj hsplit
        rfl
    obtain ⟨⟨whole, behindWhole⟩, hwhole, h⟩ := Option.bind_eq_some_iff.1 h
    obtain ⟨⟨fraction, behindFraction⟩, hfraction, h⟩ := Option.bind_eq_some_iff.1 h
    obtain ⟨⟨exponent, behind⟩, hexponent, h⟩ := Option.bind_eq_some_iff.1 h
    obtain ⟨rfl, rfl⟩ := Prod.mk.inj (Option.some.inj h)
    obtain ⟨cs₁, rfl, h₁⟩ := exists_whole_of_readWhole? hwhole
    obtain ⟨cs₂, rfl, h₂⟩ := exists_fraction_of_readFraction? hfraction
    obtain ⟨cs₃, rfl, h₃⟩ := exists_exponent_of_readExponent? hexponent
    refine ⟨_, ?_, cs₁, cs₂, cs₃, rfl, h₁, h₂, h₃⟩
    rw [hminus]
    simp only [List.append_assoc]

/-- Behind the digits before the point no digit follows. -/
lemma Exponent.noDigit_append (h : Exponent exponent cs) (hrest : NoDigit rest) :
    NoDigit (cs ++ rest) := by
  cases h with
  | absent => exact hrest
  | present hmark =>
      refine noDigit_cons ?_ _
      rcases hmark with rfl | rfl <;> decide

lemma Exponent.head?_append_ne (h : Exponent exponent cs) (hrest : rest.head? ≠ some '.') :
    (cs ++ rest).head? ≠ some '.' := by
  cases h with
  | absent => exact hrest
  | present hmark => rcases hmark with rfl | rfl <;> simp

lemma Fraction.noDigit_append (h : Fraction part cs) (hrest : NoDigit rest) :
    NoDigit (cs ++ rest) := by
  cases h with
  | absent => exact hrest
  | present => exact noDigit_cons (by decide) _

/-- A number begins with a minus or a digit. -/
lemma Whole.exists_cons (h : Whole ds cs) :
    ∃ c rest d, cs = c :: rest ∧ Document.digit? c = some d := by
  cases h with
  | zero => exact ⟨'0', [], 0, rfl, by decide⟩
  | digits _ hdigits =>
      cases hdigits with
      | cons hd _ => exact ⟨_, _, _, rfl, hd⟩

lemma readNumber?_append (h : Number l cs) (hrest : EndsNumber rest) :
    Document.readNumber? (cs ++ rest) = some (l, rest) := by
  obtain ⟨negative, ds, part, exponent⟩ := l
  obtain ⟨whole, fraction, chars, rfl, hwhole, hfraction, hexponent⟩ := h
  obtain ⟨hdigit, hpoint, hsmall, hcapital⟩ := hrest
  have hread₃ := readExponent?_append hexponent hdigit hsmall hcapital
  have hread₂ := readFraction?_append hfraction (hexponent.noDigit_append hdigit)
    (hexponent.head?_append_ne hpoint)
  have hread₁ := readWhole?_append hwhole
    (hfraction.noDigit_append (hexponent.noDigit_append hdigit))
  simp only [List.append_assoc]
  cases negative with
  | true =>
      rw [if_pos rfl, List.singleton_append, Document.readNumber?.eq_1, hread₁]
      simp only [Option.bind_eq_bind, Option.bind_some, hread₂, hread₃]
      rfl
  | false =>
      have hfirst : ∀ r, whole ++ (fraction ++ (chars ++ rest)) ≠ '-' :: r := by
        intro r heq
        obtain ⟨c, whole, d, rfl, hd⟩ := hwhole.exists_cons
        exact ne_of_digit hd (by decide) (List.cons.inj heq).1
      rw [if_neg (by simp), List.nil_append, Document.readNumber?.eq_2 _ hfirst, hread₁]
      simp only [Option.bind_eq_bind, Option.bind_some, hread₂, hread₃]
      rfl

end Numbers

/-! ## Reading strings -/

section Strings

variable {us : List TextUnit} {cs rest : List Char}

lemma exists_units_of_readString? (h : Document.readString? cs = some (us, rest)) :
    ∃ units, cs = units ++ '"' :: rest ∧ Units us units := by
  induction cs using Document.readString?.induct generalizing us with
  | case1 => exact nomatch h
  | case2 cs =>
      obtain ⟨rfl, rfl⟩ := Prod.mk.inj (Option.some.inj h)
      exact ⟨[], rfl, Units.nil⟩
  | case3 w x y z cs w' x' y' z' units r hread hz hy hx hw ih =>
      rw [Document.readString?] at h
      simp only [hw, hx, hy, hz, hread] at h
      obtain ⟨rfl, rfl⟩ := Prod.mk.inj (Option.some.inj h)
      obtain ⟨chars, rfl, hunits⟩ := ih hread
      exact ⟨_, rfl, Units.code hw hx hy hz hunits⟩
  | case4 w x y z cs hnone _ =>
      rw [Document.readString?] at h
      split at h
      · next hw hx hy hz hread => exact (hnone _ _ _ _ _ _ hw hx hy hz hread).elim
      · exact nomatch h
  | case5 e cs hcode c units r hread he ih =>
      rw [Document.readString?.eq_4 e cs hcode] at h
      simp only [he, hread] at h
      obtain ⟨rfl, rfl⟩ := Prod.mk.inj (Option.some.inj h)
      obtain ⟨chars, rfl, hunits⟩ := ih hread
      exact ⟨_, rfl, Units.short he hunits⟩
  | case6 e cs hcode hnone _ =>
      rw [Document.readString?.eq_4 e cs hcode] at h
      split at h
      · next he hread => exact (hnone _ _ _ he hread).elim
      · exact nomatch h
  | case7 c cs hquote hcode hshort hrefused =>
      rw [Document.readString?.eq_5 c cs hquote hcode hshort, if_pos hrefused] at h
      exact nomatch h
  | case8 c cs hquote hcode hshort hplain ih =>
      rw [Document.readString?.eq_5 c cs hquote hcode hshort, if_neg hplain] at h
      obtain ⟨⟨units, r⟩, hread, heq⟩ := Option.map_eq_some_iff.1 h
      obtain ⟨rfl, rfl⟩ := Prod.mk.inj heq
      obtain ⟨chars, rfl, hunits⟩ := ih hread
      rw [not_or, not_lt] at hplain
      exact ⟨_, rfl, Units.plain hquote hplain.1 hplain.2 hunits⟩

lemma readString?_append (h : Units us cs) (rest : List Char) :
    Document.readString? (cs ++ '"' :: rest) = some (us, rest) := by
  induction h with
  | nil => rfl
  | plain hquote hslash hcontrol _ ih =>
      rw [List.cons_append, Document.readString?.eq_5 _ _ hquote
        (fun _ _ _ _ _ heq => absurd heq hslash) (fun _ _ heq => absurd heq hslash),
        if_neg (not_or.2 ⟨hslash, not_lt.2 hcontrol⟩), ih]
      rfl
  | short he _ ih =>
      -- the letter of a code unit is no short escape
      have hcode : ∀ e' c, Document.shortEscape? e' = some c → e' ≠ 'u' := by
        rintro e' c he' rfl
        simp [Document.shortEscape?] at he'
      rw [List.cons_append, List.cons_append, Document.readString?.eq_4 _ _
        (fun _ _ _ _ _ heq => absurd heq (hcode _ _ he))]
      simp only [he, ih]
  | code hw hx hy hz _ ih =>
      simp only [List.cons_append]
      rw [Document.readString?]
      simp only [hw, hx, hy, hz, ih]

end Strings

end Grammar

end LintConfig
