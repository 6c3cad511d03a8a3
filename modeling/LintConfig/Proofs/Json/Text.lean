import LintConfig.Json.Printer
import LintConfig.Proofs.Double.Text

/-!
# The text of a JSON value is the text of no other value

Caches use the compact text of a schema as its key, so two schemas must never share a text.

Texts of values follow one another in arrays and objects, and the statement that goes through by
induction is about the text of a value with something behind it (`chars_append_inj`).  What stands
behind a value never begins like the rest of a number, which is what `Stops` says; all other values
show where they end.

* `quote_append_inj`: a string ends at the first quote that is not escaped, by `unescape_escape`.
* `Number.chars_injective`: integers and doubles have different texts, even for one number.
* **`text_injective`**: a value is determined by its text.
-/

namespace LintConfig

/-! ## Numbers -/

namespace Number

/-- Whether a number can be written with a character. -/
def isNumberChar (c : Char) : Bool := c.isDigit || ['.', 'e', '-', '+'].contains c

lemma isNumberChar_of_mem_integerChars {i : ℤ} {c : Char} (h : c ∈ integerChars i) :
    c.isDigit ∨ c = '-' := by
  rw [integerChars, List.mem_append] at h
  rcases h with h | h
  · split_ifs at h
    · exact Or.inr (by simpa using h)
    · simp at h
  · exact Or.inl (isDigit_of_mem_toDigits h)

lemma isNumberChar_of_mem {n : Number} {c : Char} (h : c ∈ n.chars) : isNumberChar c := by
  have hc : c.isDigit ∨ c ∈ ['.', 'e', '-', '+'] := by
    cases n with
    | integer i =>
        rcases isNumberChar_of_mem_integerChars h with hd | rfl
        · exact Or.inl hd
        · exact Or.inr (by simp)
    | double d => exact Double.mem_format rfl h
  simpa [isNumberChar] using hc

lemma integerChars_injective : Function.Injective integerChars := by
  intro i j h
  have key : ∀ k l : ℤ, k < 0 → ¬ l < 0 → integerChars k ≠ integerChars l := by
    intro k l hk hl he
    simp only [integerChars, if_pos hk, if_neg hl, List.nil_append, List.singleton_append] at he
    have hm : '-' ∈ Nat.toDigits 10 l.natAbs := by rw [← he]; simp
    exact absurd (isDigit_of_mem_toDigits hm) (by decide)
  have hsign : i < 0 ↔ j < 0 := by
    constructor
    · intro hi
      by_contra hj
      exact key i j hi hj h
    · intro hj
      by_contra hi
      exact key j i hj hi h.symm
  have habs : Nat.toDigits 10 i.natAbs = Nat.toDigits 10 j.natAbs := by
    simp only [integerChars, hsign] at h
    exact List.append_cancel_left h
  have hnat : i.natAbs = j.natAbs := by
    rw [← Nat.ofDigitChars_ten_toDigits (n := i.natAbs), habs, Nat.ofDigitChars_ten_toDigits]
  omega

lemma wholeMark_jsonLayout : jsonLayout.wholeMark = ['.', '0'] := rfl

lemma integerChars_ne_format (i : ℤ) (d : Double) : integerChars i ≠ d.format jsonLayout := by
  intro h
  rcases Double.mark_mem_format wholeMark_jsonLayout d with hm | hm <;> rw [← h] at hm
  · exact absurd (isNumberChar_of_mem_integerChars hm) (by decide)
  · exact absurd (isNumberChar_of_mem_integerChars hm) (by decide)

/-- **Numbers of different kinds or values have different texts.** -/
theorem chars_injective : Function.Injective chars := by
  intro m n h
  cases m with
  | integer i =>
      cases n with
      | integer j => rw [integerChars_injective h]
      | double e => exact absurd h (integerChars_ne_format i e)
  | double d =>
      cases n with
      | integer j => exact absurd h.symm (integerChars_ne_format j d)
      | double e => rw [Double.format_injective wholeMark_jsonLayout h]

lemma exists_cons (n : Number) : ∃ c cs, n.chars = c :: cs ∧ isNumberChar c := by
  cases hn : n.chars with
  | nil =>
      cases n with
      | integer i => simp [chars, integerChars] at hn
      | double d =>
          have := Double.mark_mem_format wholeMark_jsonLayout d
          rw [show d.format jsonLayout = [] from hn] at this
          simp at this
  | cons c cs => exact ⟨c, cs, rfl, isNumberChar_of_mem (by rw [hn]; simp)⟩

end Number

namespace Json

/-! ## Strings -/

/-- The value of a hexadecimal digit. -/
def hexValue (c : Char) : ℕ := if c.isDigit then c.toNat - 48 else c.toNat - 87

lemma hexValue_digitChar : ∀ n < 16, hexValue (Nat.digitChar n) = n := by decide

/-- The character at the start of the inside of a string, and what follows it.  A left inverse of
`escape`. -/
def unescape : List Char → Option (Char × List Char)
  | '\\' :: 'n' :: rest => some ('\n', rest)
  | '\\' :: 't' :: rest => some ('\t', rest)
  | '\\' :: 'r' :: rest => some ('\r', rest)
  | '\\' :: 'b' :: rest => some (Char.ofNat 8, rest)
  | '\\' :: 'f' :: rest => some (Char.ofNat 12, rest)
  | '\\' :: 'u' :: _ :: _ :: high :: low :: rest =>
    some (Char.ofNat (16 * hexValue high + hexValue low), rest)
  | '\\' :: c :: rest => some (c, rest)
  | c :: rest => some (c, rest)
  | [] => none

lemma unescape_cons {c : Char} (hc : c ≠ '\\') (rest : List Char) :
    unescape (c :: rest) = some (c, rest) := by
  unfold unescape
  split <;> simp_all

lemma unescape_hexEscape {c : Char} (hc : c.toNat < 32) (rest : List Char) :
    unescape (hexEscape c ++ rest) = some (c, rest) := by
  have hhigh := hexValue_digitChar (c.toNat / 16) (by omega)
  have hlow := hexValue_digitChar (c.toNat % 16) (by omega)
  simp only [hexEscape, List.cons_append, List.nil_append, unescape, hhigh, hlow,
    Nat.div_add_mod, Char.ofNat_toNat]

/-- What is written for a character can be told from whatever follows it. -/
lemma unescape_escape (c : Char) (rest : List Char) :
    unescape (escape c ++ rest) = some (c, rest) := by
  unfold escape
  split_ifs with h1 h2 h3 h4 h5 h6 h7 h8
  · rw [h1]; rfl
  · rw [h2]; rfl
  · rw [h3]; rfl
  · rw [h4]; rfl
  · rw [h5]; rfl
  · rw [← Char.ofNat_toNat c, h6]; rfl
  · rw [← Char.ofNat_toNat c, h7]; rfl
  · exact unescape_hexEscape h8 rest
  · exact unescape_cons h2 rest

/-- No character is written with a quote in front, so the quote that ends a string is the first one
that is not the second half of an escape. -/
lemma escape_append_ne_quote (c : Char) (rest after : List Char) :
    escape c ++ rest ≠ '"' :: after := by
  intro h
  have hc := congrArg List.head? h
  unfold escape at hc
  split_ifs at hc with h1 <;> simp_all [hexEscape]

lemma escaped_append_inj {cs ds s t : List Char}
    (h : cs.flatMap escape ++ '"' :: s = ds.flatMap escape ++ '"' :: t) : cs = ds ∧ s = t := by
  induction cs generalizing ds with
  | nil =>
      cases ds with
      | nil => simpa using h
      | cons d ds =>
          rw [List.flatMap_nil, List.nil_append, List.flatMap_cons, List.append_assoc] at h
          exact absurd h.symm (escape_append_ne_quote d _ s)
  | cons c cs ih =>
      cases ds with
      | nil =>
          rw [List.flatMap_nil, List.nil_append, List.flatMap_cons, List.append_assoc] at h
          exact absurd h (escape_append_ne_quote c _ t)
      | cons d ds =>
          rw [List.flatMap_cons, List.flatMap_cons, List.append_assoc, List.append_assoc] at h
          have hread := congrArg unescape h
          rw [unescape_escape, unescape_escape, Option.some.injEq, Prod.mk.injEq] at hread
          obtain ⟨rfl, hrest⟩ := hread
          obtain ⟨rfl, rfl⟩ := ih hrest
          exact ⟨rfl, rfl⟩

lemma quote_append (k : String) (s : List Char) :
    quote k ++ s = '"' :: (k.toList.flatMap escape ++ '"' :: s) := by
  simp [quote]

/-- A string ends where its text ends. -/
theorem quote_append_inj {k j : String} {s t : List Char} (h : quote k ++ s = quote j ++ t) :
    k = j ∧ s = t := by
  rw [quote_append, quote_append, List.cons.injEq] at h
  obtain ⟨hchars, hrest⟩ := escaped_append_inj h.2
  exact ⟨String.toList_inj.mp hchars, hrest⟩

/-! ## Where a value ends -/

/-- A text that cannot go on with the number before it. -/
def Stops (s : List Char) : Prop := ∀ c ∈ s.head?, Number.isNumberChar c = false

lemma stops_nil : Stops [] := by simp [Stops]

lemma stops_cons {c : Char} (hc : Number.isNumberChar c = false) (s : List Char) :
    Stops (c :: s) := by
  simpa [Stops] using hc

lemma stops_itemsChars (items : List Json) (s : List Char) : Stops (itemsChars items ++ s) := by
  cases items with
  | nil => exact stops_cons (by decide) _
  | cons v rest => exact stops_cons (by decide) _

lemma stops_membersChars (members : List (String × Json)) (s : List Char) :
    Stops (membersChars members ++ s) := by
  cases members with
  | nil => exact stops_cons (by decide) _
  | cons m rest => exact stops_cons (by decide) _

/-- A run of characters of numbers ends where the text stops. -/
lemma takeWhile_append_of_stops {xs s : List Char} (hx : ∀ c ∈ xs, Number.isNumberChar c)
    (hs : Stops s) : (xs ++ s).takeWhile Number.isNumberChar = xs := by
  have hnil : s.takeWhile Number.isNumberChar = [] := by
    cases s with
    | nil => rfl
    | cons c rest => simp [hs c (by simp)]
  rw [List.takeWhile_append_of_pos hx, hnil, List.append_nil]

lemma number_append_inj {m n : Number} {s t : List Char} (hs : Stops s) (ht : Stops t)
    (h : m.chars ++ s = n.chars ++ t) : m = n ∧ s = t := by
  have hrun := congrArg (List.takeWhile Number.isNumberChar) h
  rw [takeWhile_append_of_stops (fun _ hc => Number.isNumberChar_of_mem hc) hs,
    takeWhile_append_of_stops (fun _ hc => Number.isNumberChar_of_mem hc) ht] at hrun
  rw [hrun] at h
  exact ⟨Number.chars_injective hrun, List.append_cancel_left h⟩

/-! ## Values -/

/-- What the first character of a text says about the value. -/
inductive Shape where
  | null
  | yes
  | no
  | number
  | string
  | array
  | object

/-- The shape of a value. -/
def shape : Json → Shape
  | null => .null
  | bool true => .yes
  | bool false => .no
  | num _ => .number
  | str _ => .string
  | arr _ => .array
  | obj _ => .object

/-- The shape that a text begins with. -/
def Shape.ofLead (c : Char) : Shape :=
  if c = 'n' then .null
  else if c = 't' then .yes
  else if c = 'f' then .no
  else if c = '"' then .string
  else if c = '[' then .array
  else if c = '\x7b' then .object
  else .number

lemma ofLead_of_isNumberChar {c : Char} (hc : Number.isNumberChar c) :
    Shape.ofLead c = .number := by
  unfold Shape.ofLead
  split_ifs with h1 h2 h3 h4 h5 h6 <;> first | rfl | (subst_vars; exact absurd hc (by decide))

lemma exists_lead (v : Json) : ∃ c cs, v.chars = c :: cs ∧ Shape.ofLead c = v.shape := by
  cases v with
  | null => exact ⟨_, _, rfl, rfl⟩
  | bool b => cases b <;> exact ⟨_, _, rfl, rfl⟩
  | num n =>
      obtain ⟨c, cs, hn, hc⟩ := n.exists_cons
      exact ⟨c, cs, by rw [chars, hn], ofLead_of_isNumberChar hc⟩
  | str s => exact ⟨'"', s.toList.flatMap escape ++ ['"'], by rw [chars, quote]; rfl, rfl⟩
  | arr items => cases items <;> exact ⟨_, _, rfl, rfl⟩
  | obj members => cases members <;> exact ⟨_, _, rfl, rfl⟩

/-- Values of different shapes cannot begin the same text. -/
lemma shape_eq_of_append_eq {v w : Json} {s t : List Char} (h : v.chars ++ s = w.chars ++ t) :
    v.shape = w.shape := by
  obtain ⟨c, cs, hv, hc⟩ := v.exists_lead
  obtain ⟨d, ds, hw, hd⟩ := w.exists_lead
  rw [hv, hw, List.cons_append, List.cons_append, List.cons.injEq] at h
  rw [← hc, ← hd, h.1]

/-- The closing bracket is not the beginning of an item. -/
lemma chars_append_ne_bracket (v : Json) (s t : List Char) : v.chars ++ s ≠ ']' :: t := by
  intro h
  obtain ⟨c, cs, hv, hc⟩ := v.exists_lead
  rw [hv, List.cons_append, List.cons.injEq] at h
  rw [h.1] at hc
  cases v with
  | num n =>
      obtain ⟨d, ds, hn, hd⟩ := n.exists_cons
      rw [chars, hn, List.cons.injEq] at hv
      rw [hv.1, h.1] at hd
      exact absurd hd (by decide)
  | bool b => cases b <;> exact Shape.noConfusion hc
  | _ => exact Shape.noConfusion hc

mutual

/-- A value ends where its text ends, if the text behind it does not go on with a number. -/
theorem chars_append_inj : ∀ (v w : Json) (s t : List Char), Stops s → Stops t →
    v.chars ++ s = w.chars ++ t → v = w ∧ s = t
  | null, w, s, t, hs, ht, h => by
      have hshape := shape_eq_of_append_eq h
      match w with
      | null => exact ⟨rfl, by simpa [chars] using h⟩
      | bool true | bool false | num _ | str _ | arr _ | obj _ => exact Shape.noConfusion hshape
  | bool true, w, s, t, hs, ht, h => by
      have hshape := shape_eq_of_append_eq h
      match w with
      | bool true => exact ⟨rfl, by simpa [chars] using h⟩
      | null | bool false | num _ | str _ | arr _ | obj _ => exact Shape.noConfusion hshape
  | bool false, w, s, t, hs, ht, h => by
      have hshape := shape_eq_of_append_eq h
      match w with
      | bool false => exact ⟨rfl, by simpa [chars] using h⟩
      | null | bool true | num _ | str _ | arr _ | obj _ => exact Shape.noConfusion hshape
  | num m, w, s, t, hs, ht, h => by
      have hshape := shape_eq_of_append_eq h
      match w with
      | num n =>
          obtain ⟨rfl, rfl⟩ := number_append_inj hs ht (by simpa only [chars] using h)
          exact ⟨rfl, rfl⟩
      | null | bool true | bool false | str _ | arr _ | obj _ => exact Shape.noConfusion hshape
  | str k, w, s, t, hs, ht, h => by
      have hshape := shape_eq_of_append_eq h
      match w with
      | str j =>
          obtain ⟨rfl, rfl⟩ := quote_append_inj (by simpa only [chars] using h)
          exact ⟨rfl, rfl⟩
      | null | bool true | bool false | num _ | arr _ | obj _ => exact Shape.noConfusion hshape
  | arr items, w, s, t, hs, ht, h => by
      have hshape := shape_eq_of_append_eq h
      match w with
      | arr items' =>
          match items, items' with
          | [], [] => exact ⟨rfl, by simpa [chars] using h⟩
          | [], w :: rest =>
              simp only [chars, List.cons_append, List.nil_append, List.cons.injEq, true_and,
                List.append_assoc] at h
              exact absurd h.symm (chars_append_ne_bracket w _ _)
          | v :: rest, [] =>
              simp only [chars, List.cons_append, List.nil_append, List.cons.injEq, true_and,
                List.append_assoc] at h
              exact absurd h (chars_append_ne_bracket v _ _)
          | v :: rest, w :: rest' =>
              simp only [chars, List.cons_append, List.cons.injEq, true_and,
                List.append_assoc] at h
              obtain ⟨rfl, htail⟩ := chars_append_inj v w _ _ (stops_itemsChars rest s)
                (stops_itemsChars rest' t) h
              obtain ⟨rfl, rfl⟩ := itemsChars_append_inj rest rest' s t htail
              exact ⟨rfl, rfl⟩
      | null | bool true | bool false | num _ | str _ | obj _ => exact Shape.noConfusion hshape
  | obj members, w, s, t, hs, ht, h => by
      have hshape := shape_eq_of_append_eq h
      match w with
      | obj members' =>
          match members, members' with
          | [], [] => exact ⟨rfl, by simpa [chars] using h⟩
          | [], (j, w) :: rest =>
              simp [chars, quote] at h
          | (k, v) :: rest, [] =>
              simp [chars, quote] at h
          | (k, v) :: rest, (j, w) :: rest' =>
              simp only [chars, List.cons_append, List.cons.injEq, true_and,
                List.append_assoc] at h
              obtain ⟨rfl, hvalue⟩ := quote_append_inj h
              rw [List.cons.injEq] at hvalue
              obtain ⟨rfl, htail⟩ := chars_append_inj v w _ _ (stops_membersChars rest s)
                (stops_membersChars rest' t) hvalue.2
              obtain ⟨rfl, rfl⟩ := membersChars_append_inj rest rest' s t htail
              exact ⟨rfl, rfl⟩
      | null | bool true | bool false | num _ | str _ | arr _ => exact Shape.noConfusion hshape

/-- The items behind the first one end at the closing bracket. -/
theorem itemsChars_append_inj : ∀ (vs ws : List Json) (s t : List Char),
    itemsChars vs ++ s = itemsChars ws ++ t → vs = ws ∧ s = t
  | [], [], s, t, h => ⟨rfl, by simpa [itemsChars] using h⟩
  | [], w :: ws, s, t, h => by simp [itemsChars] at h
  | v :: vs, [], s, t, h => by simp [itemsChars] at h
  | v :: vs, w :: ws, s, t, h => by
      simp only [itemsChars, List.cons_append, List.cons.injEq, true_and, List.append_assoc] at h
      obtain ⟨rfl, htail⟩ := chars_append_inj v w _ _ (stops_itemsChars vs s)
        (stops_itemsChars ws t) h
      obtain ⟨rfl, rfl⟩ := itemsChars_append_inj vs ws s t htail
      exact ⟨rfl, rfl⟩

/-- The members behind the first one end at the closing brace. -/
theorem membersChars_append_inj : ∀ (ms ns : List (String × Json)) (s t : List Char),
    membersChars ms ++ s = membersChars ns ++ t → ms = ns ∧ s = t
  | [], [], s, t, h => ⟨rfl, by simpa [membersChars] using h⟩
  | [], (j, w) :: ns, s, t, h => by simp [membersChars] at h
  | (k, v) :: ms, [], s, t, h => by simp [membersChars] at h
  | (k, v) :: ms, (j, w) :: ns, s, t, h => by
      simp only [membersChars, List.cons_append, List.cons.injEq, true_and,
        List.append_assoc] at h
      obtain ⟨rfl, hvalue⟩ := quote_append_inj h
      rw [List.cons.injEq] at hvalue
      obtain ⟨rfl, htail⟩ := chars_append_inj v w _ _ (stops_membersChars ms s)
        (stops_membersChars ns t) hvalue.2
      obtain ⟨rfl, rfl⟩ := membersChars_append_inj ms ns s t htail
      exact ⟨rfl, rfl⟩

end

/-- **A value is determined by its text.** -/
theorem text_injective : Function.Injective text := by
  intro v w h
  have hchars : v.chars ++ [] = w.chars ++ [] := by
    rw [List.append_nil, List.append_nil]
    exact String.ofList_injective h
  exact (chars_append_inj v w [] [] stops_nil stops_nil hchars).1

end Json

end LintConfig
