import Mathlib
import LintConfig.Proofs.Json.Text

/-!
# Values and their indented texts

The indented text of a value has the same characters as its compact one, and blanks and line breaks
outside of strings.  `compact` takes these out again.

**Inside and outside.**  The blanks of a string have to stay, so `compact` keeps track of its
`Position`, and of the characters that are escaped.

**A left inverse.**  `compact_prettyChars` is by induction on the value, with any text behind it.
With `text_injective` this gives `pretty_injective`.
-/

namespace LintConfig

namespace Json

/-- Where a text is read. -/
inductive Position where
  | outside
  | inside
  | escaped

/-- The position behind a character. -/
def Position.next : Position → Char → Position
  | outside, c => if c = '"' then inside else outside
  | inside, c => if c = '"' then outside else if c = '\\' then escaped else inside
  | escaped, _ => inside

/-- The characters of a text that are not layout. -/
def compact : Position → List Char → List Char
  | _, [] => []
  | .outside, c :: cs =>
    if c = ' ' ∨ c = '\n' then compact .outside cs else c :: compact (Position.outside.next c) cs
  | p, c :: cs => c :: compact (p.next c) cs

/-! ## Characters -/

@[simp] lemma compact_blank (s : List Char) :
    compact .outside (' ' :: s) = compact .outside s := rfl

@[simp] lemma compact_break (s : List Char) :
    compact .outside ('\n' :: s) = compact .outside s := rfl

lemma compact_newline (depth : ℕ) (s : List Char) :
    compact .outside (newline depth ++ s) = compact .outside s := by
  have hblanks : ∀ n, compact .outside (List.replicate n ' ' ++ s) = compact .outside s := by
    intro n
    induction n with
    | zero => rfl
    | succ n ih => simpa [List.replicate_succ] using ih
  simpa [newline] using hblanks (2 * depth)

/-- A mark between values, or a letter of a literal. -/
lemma compact_cons {c : Char} (hblank : c ≠ ' ') (hbreak : c ≠ '\n') (hquote : c ≠ '"')
    (s : List Char) : compact .outside (c :: s) = c :: compact .outside s := by
  simp [compact, Position.next, hblank, hbreak, hquote]

lemma compact_append {cs : List Char} (h : ∀ c ∈ cs, c ≠ ' ' ∧ c ≠ '\n' ∧ c ≠ '"')
    (s : List Char) : compact .outside (cs ++ s) = cs ++ compact .outside s := by
  induction cs with
  | nil => rfl
  | cons c cs ih =>
      rw [List.forall_mem_cons] at h
      obtain ⟨⟨hblank, hbreak, hquote⟩, hcs⟩ := h
      rw [List.cons_append, compact_cons hblank hbreak hquote, ih hcs, List.cons_append]

lemma compact_number (n : Number) (s : List Char) :
    compact .outside (n.chars ++ s) = n.chars ++ compact .outside s := by
  refine compact_append (fun c hc => ?_) s
  have hnumber := Number.isNumberChar_of_mem hc
  refine ⟨?_, ?_, ?_⟩ <;>
  · rintro rfl
    exact absurd hnumber (by decide)

/-! ## Strings -/

lemma compact_inside_cons {c : Char} (hquote : c ≠ '"') (hslash : c ≠ '\\') (s : List Char) :
    compact .inside (c :: s) = c :: compact .inside s := by
  simp [compact, Position.next, hquote, hslash]

lemma digitChar_ne : ∀ n < 16, Nat.digitChar n ≠ '"' ∧ Nat.digitChar n ≠ '\\' := by decide

lemma compact_escape (c : Char) (s : List Char) :
    compact .inside (escape c ++ s) = escape c ++ compact .inside s := by
  unfold escape
  split_ifs with hquote hslash h1 h2 h3 h4 h5 hcontrol
  · rfl
  · rfl
  · rfl
  · rfl
  · rfl
  · rfl
  · rfl
  · -- the two digits of a control character are neither quotes nor backslashes
    obtain ⟨hq, hs⟩ := digitChar_ne (c.toNat / 16) (by omega)
    obtain ⟨hq', hs'⟩ := digitChar_ne (c.toNat % 16) (by omega)
    have hdigits : ∀ t, compact .inside (hexEscape c ++ t)
        = '\\' :: 'u' :: '0' :: '0' :: compact .inside
          (Nat.digitChar (c.toNat / 16) :: Nat.digitChar (c.toNat % 16) :: t) := fun _ => rfl
    rw [hdigits, compact_inside_cons hq hs, compact_inside_cons hq' hs']
    rfl
  · exact compact_inside_cons hquote hslash s

/-- A string is kept as it is. -/
lemma compact_quote (k : String) (s : List Char) :
    compact .outside (quote k ++ s) = quote k ++ compact .outside s := by
  have hinside : ∀ cs : List Char, compact .inside (cs.flatMap escape ++ '"' :: s)
      = cs.flatMap escape ++ '"' :: compact .outside s := by
    intro cs
    induction cs with
    | nil => rfl
    | cons c cs ih => rw [List.flatMap_cons, List.append_assoc, compact_escape, ih,
        List.append_assoc]
  rw [quote_append, quote_append, ← hinside]
  rfl

/-! ## Values -/

mutual

/-- **Without its layout the indented text of a value is the compact one.** -/
theorem compact_prettyChars : ∀ (v : Json) (depth : ℕ) (s : List Char),
    compact .outside (v.prettyChars depth ++ s) = v.chars ++ compact .outside s
  | null, _, _ => rfl
  | bool true, _, _ => rfl
  | bool false, _, _ => rfl
  | num n, _, s => by
      rw [prettyChars, chars]
      exact compact_number n s
  | str k, _, s => by
      rw [prettyChars, chars]
      exact compact_quote k s
  | arr [], _, _ => rfl
  | arr (v :: rest), depth, s => by
      simp only [prettyChars, chars, List.cons_append, List.append_assoc]
      rw [compact_cons (by decide) (by decide) (by decide), compact_newline,
        compact_prettyChars v, compact_prettyItems rest]
  | obj [], _, _ => rfl
  | obj ((k, v) :: rest), depth, s => by
      simp only [prettyChars, chars, List.cons_append, List.append_assoc]
      rw [compact_cons (by decide) (by decide) (by decide), compact_newline, compact_quote,
        compact_cons (by decide) (by decide) (by decide), compact_blank, compact_prettyChars v,
        compact_prettyMembers rest]

/-- The items behind the first one. -/
theorem compact_prettyItems : ∀ (vs : List Json) (depth : ℕ) (s : List Char),
    compact .outside (prettyItems depth vs ++ s) = itemsChars vs ++ compact .outside s
  | [], depth, s => by
      simp only [prettyItems, itemsChars, List.append_assoc, List.cons_append, List.nil_append]
      rw [compact_newline, compact_cons (by decide) (by decide) (by decide)]
  | v :: rest, depth, s => by
      simp only [prettyItems, itemsChars, List.cons_append, List.append_assoc]
      rw [compact_cons (by decide) (by decide) (by decide), compact_newline,
        compact_prettyChars v, compact_prettyItems rest]

/-- The members behind the first one. -/
theorem compact_prettyMembers : ∀ (ms : List (String × Json)) (depth : ℕ) (s : List Char),
    compact .outside (prettyMembers depth ms ++ s) = membersChars ms ++ compact .outside s
  | [], depth, s => by
      simp only [prettyMembers, membersChars, List.append_assoc, List.cons_append,
        List.nil_append]
      rw [compact_newline, compact_cons (by decide) (by decide) (by decide)]
  | (k, v) :: rest, depth, s => by
      simp only [prettyMembers, membersChars, List.cons_append, List.append_assoc]
      rw [compact_cons (by decide) (by decide) (by decide), compact_newline, compact_quote,
        compact_cons (by decide) (by decide) (by decide), compact_blank, compact_prettyChars v,
        compact_prettyMembers rest]

end

/-- **A value is determined by its indented text.** -/
theorem pretty_injective : Function.Injective pretty := by
  intro v w h
  have hchars : v.prettyChars 0 ++ [] = w.prettyChars 0 ++ [] := by
    rw [List.append_nil, List.append_nil]
    exact String.ofList_injective h
  have hcompact := congrArg (compact .outside) hchars
  rw [compact_prettyChars, compact_prettyChars] at hcompact
  simp only [compact, List.append_nil] at hcompact
  apply text_injective
  rw [text, text, hcompact]

end Json

end LintConfig
