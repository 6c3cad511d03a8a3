import Mathlib
import LintConfig.Proofs.Json.Grammar

/-!
# The reader and the grammar

`Document.read?` finds the document of a text exactly if the grammar has one, and finds that one
(`read?_eq_some_iff`).

**What is read is written.**  `Sound` says so of the three readers that call each other, for a
number of nested calls; it is carried from one number to the next.

**What is written is read.**  A value takes fewer nested calls than twice its characters.  The proof
is by recursion on the document, and what stands behind a value must not go on with a number.
-/

namespace LintConfig

namespace Grammar

/-- The characters of a whole text: one element. -/
def Text (d : Document) (text : String) : Prop := Element d text.toList

/-! ## Blanks in front -/

section Padding

variable {d : Document} {ds : List Document} {m : List TextUnit × Document}
  {ms : List (List TextUnit × Document)} {w cs : List Char}

lemma Element.blanks_append (hw : Blanks w) (h : Element d cs) : Element d (w ++ cs) := by
  cases h with
  | mk hbefore hvalue hbehind =>
      rw [← List.append_assoc, ← List.append_assoc]
      exact Element.mk (hw.append hbefore) hvalue hbehind

lemma Elements.blanks_append (hw : Blanks w) (h : Elements ds cs) : Elements ds (w ++ cs) := by
  cases h with
  | one hd => exact Elements.one (hd.blanks_append hw)
  | cons hd hrest =>
      rw [← List.append_assoc]
      exact Elements.cons (hd.blanks_append hw) hrest

lemma Member.blanks_append (hw : Blanks w) (h : Member m cs) : Member m (w ++ cs) := by
  cases h with
  | mk hbefore hname hbehind hd =>
      simp only [← List.append_assoc]
      exact Member.mk (hw.append hbefore) hname hbehind hd

lemma Members.blanks_append (hw : Blanks w) (h : Members ms cs) : Members ms (w ++ cs) := by
  cases h with
  | one hm => exact Members.one (hm.blanks_append hw)
  | cons hm hrest =>
      rw [← List.append_assoc]
      exact Members.cons (hm.blanks_append hw) hrest

end Padding

/-! ## What is read is written -/

/-- What the readers find with a number of nested calls is written where they found it. -/
structure Sound (fuel : ℕ) : Prop where
  value : ∀ cs d rest, Document.readValue? fuel cs = some (d, rest) →
    ∃ w body, cs = w ++ body ++ rest ∧ Blanks w ∧ Value d body
  items : ∀ cs ds rest, Document.readItems? fuel cs = some (ds, rest) →
    ∃ body, cs = body ++ ']' :: rest ∧ Elements ds body
  members : ∀ cs ms rest, Document.readMembers? fuel cs = some (ms, rest) →
    ∃ body, cs = body ++ '\x7d' :: rest ∧ Members ms body

section Soundness

variable {fuel : ℕ} {cs rest : List Char}

lemma Sound.value_succ (h : Sound fuel) {d : Document}
    (hread : Document.readValue? (fuel + 1) cs = some (d, rest)) :
    ∃ w body, cs = w ++ body ++ rest ∧ Blanks w ∧ Value d body := by
  obtain ⟨w, hw, hcs⟩ := exists_skipBlanks cs
  suffices hbody : ∃ body, Document.skipBlanks cs = body ++ rest ∧ Value d body by
    obtain ⟨body, hskip, hvalue⟩ := hbody
    exact ⟨w, body, by rw [List.append_assoc, ← hskip, ← hcs], hw, hvalue⟩
  rw [Document.readValue?] at hread
  split at hread
  · next heq =>
      obtain ⟨rfl, rfl⟩ := Prod.mk.inj (Option.some.inj hread)
      exact ⟨_, heq, Value.null⟩
  · next heq =>
      obtain ⟨rfl, rfl⟩ := Prod.mk.inj (Option.some.inj hread)
      exact ⟨_, heq, Value.yes⟩
  · next heq =>
      obtain ⟨rfl, rfl⟩ := Prod.mk.inj (Option.some.inj hread)
      exact ⟨_, heq, Value.no⟩
  · next heq =>
      obtain ⟨⟨us, r⟩, hstring, hpair⟩ := Option.map_eq_some_iff.1 hread
      obtain ⟨rfl, rfl⟩ := Prod.mk.inj hpair
      obtain ⟨units, rfl, hunits⟩ := exists_units_of_readString? hstring
      exact ⟨'"' :: units ++ ['"'], by rw [heq]; simp, Value.str hunits⟩
  · next inner heq =>
      obtain ⟨w', hw', hinner⟩ := exists_skipBlanks inner
      split at hread
      · next hclose =>
          obtain ⟨rfl, rfl⟩ := Prod.mk.inj (Option.some.inj hread)
          exact ⟨'[' :: w' ++ [']'], by rw [heq, hinner, hclose]; simp, Value.emptyArr hw'⟩
      · obtain ⟨⟨ds, r⟩, hitems, hpair⟩ := Option.map_eq_some_iff.1 hread
        obtain ⟨rfl, rfl⟩ := Prod.mk.inj hpair
        obtain ⟨body, hskip, helements⟩ := h.items _ _ _ hitems
        refine ⟨'[' :: (w' ++ body) ++ [']'], ?_, Value.arr (helements.blanks_append hw')⟩
        rw [heq, hinner, hskip]
        simp
  · next inner heq =>
      obtain ⟨w', hw', hinner⟩ := exists_skipBlanks inner
      split at hread
      · next hclose =>
          obtain ⟨rfl, rfl⟩ := Prod.mk.inj (Option.some.inj hread)
          exact ⟨'\x7b' :: w' ++ ['\x7d'], by rw [heq, hinner, hclose]; simp,
            Value.emptyObj hw'⟩
      · obtain ⟨⟨ms, r⟩, hmembers, hpair⟩ := Option.map_eq_some_iff.1 hread
        obtain ⟨rfl, rfl⟩ := Prod.mk.inj hpair
        obtain ⟨body, hskip, hmembers⟩ := h.members _ _ _ hmembers
        refine ⟨'\x7b' :: (w' ++ body) ++ ['\x7d'], ?_, Value.obj (hmembers.blanks_append hw')⟩
        rw [heq, hinner, hskip]
        simp
  · obtain ⟨⟨l, r⟩, hnumber, hpair⟩ := Option.map_eq_some_iff.1 hread
    obtain ⟨rfl, rfl⟩ := Prod.mk.inj hpair
    obtain ⟨number, heq, hnumber⟩ := exists_number_of_readNumber? hnumber
    exact ⟨number, heq, Value.num hnumber⟩

/-- A value with the blanks behind it. -/
lemma Sound.element (h : Sound fuel) {d : Document}
    (hread : Document.readValue? fuel cs = some (d, rest)) :
    ∃ body, cs = body ++ Document.skipBlanks rest ∧ Element d body := by
  obtain ⟨w, body, rfl, hw, hvalue⟩ := h.value _ _ _ hread
  obtain ⟨w', hw', hrest⟩ := exists_skipBlanks rest
  refine ⟨w ++ body ++ w', ?_, Element.mk hw hvalue hw'⟩
  rw [List.append_assoc _ w', ← hrest]

lemma Sound.items_succ (h : Sound fuel) {ds : List Document}
    (hread : Document.readItems? (fuel + 1) cs = some (ds, rest)) :
    ∃ body, cs = body ++ ']' :: rest ∧ Elements ds body := by
  rw [Document.readItems?] at hread
  split at hread
  · exact nomatch hread
  · next v behind hvalue =>
      obtain ⟨body, rfl, helement⟩ := h.element hvalue
      split at hread
      · next inner hcomma =>
          obtain ⟨⟨vs, r⟩, hitems, hpair⟩ := Option.map_eq_some_iff.1 hread
          obtain ⟨rfl, rfl⟩ := Prod.mk.inj hpair
          obtain ⟨more, rfl, helements⟩ := h.items _ _ _ hitems
          refine ⟨body ++ ',' :: more, ?_, Elements.cons helement helements⟩
          rw [hcomma]
          simp
      · next hclose =>
          obtain ⟨rfl, rfl⟩ := Prod.mk.inj (Option.some.inj hread)
          exact ⟨body, by rw [hclose], Elements.one helement⟩
      · exact nomatch hread

lemma Sound.members_succ (h : Sound fuel) {ms : List (List TextUnit × Document)}
    (hread : Document.readMembers? (fuel + 1) cs = some (ms, rest)) :
    ∃ body, cs = body ++ '\x7d' :: rest ∧ Members ms body := by
  obtain ⟨w, hw, hcs⟩ := exists_skipBlanks cs
  rw [Document.readMembers?] at hread
  split at hread
  swap
  · exact nomatch hread
  next inner hquote =>
  split at hread
  · exact nomatch hread
  next us behindName hstring =>
  obtain ⟨name, rfl, hname⟩ := exists_units_of_readString? hstring
  obtain ⟨w', hw', hbehind⟩ := exists_skipBlanks behindName
  split at hread
  swap
  · exact nomatch hread
  next behindColon hcolon =>
  split at hread
  · exact nomatch hread
  next d behind hvalue =>
  obtain ⟨body, rfl, helement⟩ := h.element hvalue
  have hmember : Member (us, d) (w ++ '"' :: name ++ '"' :: w' ++ ':' :: body) :=
    Member.mk hw hname hw' helement
  have htext : cs = (w ++ '"' :: name ++ '"' :: w' ++ ':' :: body)
      ++ Document.skipBlanks behind := by
    rw [hcs, hquote, hbehind, hcolon]
    simp
  split at hread
  · next inner hcomma =>
      obtain ⟨⟨vs, r⟩, hmore, hpair⟩ := Option.map_eq_some_iff.1 hread
      obtain ⟨rfl, rfl⟩ := Prod.mk.inj hpair
      obtain ⟨more, rfl, hmembers⟩ := h.members _ _ _ hmore
      refine ⟨_, ?_, Members.cons hmember hmembers⟩
      rw [htext, hcomma, List.append_assoc _ (',' :: more), List.cons_append]
  · next hclose =>
      obtain ⟨rfl, rfl⟩ := Prod.mk.inj (Option.some.inj hread)
      exact ⟨_, by rw [htext, hclose], Members.one hmember⟩
  · exact nomatch hread

/-- **What is read is written**, with any number of nested calls. -/
theorem sound (fuel : ℕ) : Sound fuel := by
  induction fuel with
  | zero =>
      constructor
      · exact fun _ _ _ h => nomatch h
      · exact fun _ _ _ h => nomatch h
      · exact fun _ _ _ h => nomatch h
  | succ fuel ih =>
      constructor
      · exact fun _ _ _ h => ih.value_succ h
      · exact fun _ _ _ h => ih.items_succ h
      · exact fun _ _ _ h => ih.members_succ h

end Soundness

/-! ## What is written is read -/

section Heads

variable {d : Document} {ds : List Document} {ms : List (List TextUnit × Document)}
  {c : Char} {body rest cs w : List Char} {fuel : ℕ}

lemma skipBlanks_cons (h : c ∉ [' ', '\t', '\n', '\r']) (cs : List Char) :
    Document.skipBlanks (c :: cs) = c :: cs := by
  rw [Document.skipBlanks, if_neg]
  simpa using h

/-- A number begins with a minus or a digit. -/
lemma Number.exists_cons {l : NumberLiteral} (h : Number l body) :
    ∃ c cs, body = c :: cs ∧ (c = '-' ∨ ∃ d, Document.digit? c = some d) := by
  obtain ⟨whole, fraction, exponent, rfl, hwhole, -, -⟩ := h
  obtain ⟨c, cs, d, rfl, hd⟩ := hwhole.exists_cons
  cases l.negative with
  | true => exact ⟨'-', _, rfl, Or.inl rfl⟩
  | false => exact ⟨c, _, rfl, Or.inr ⟨d, hd⟩⟩

/-- So it begins like no other value, and with no blank. -/
lemma ne_of_lead {k : Char} (h : c = '-' ∨ ∃ d, Document.digit? c = some d) (hminus : k ≠ '-')
    (hdigit : Document.digit? k = none) : c ≠ k := by
  rcases h with rfl | ⟨d, hd⟩
  · exact hminus.symm
  · exact ne_of_digit hd hdigit

lemma Value.exists_cons (h : Value d body) :
    ∃ c cs, body = c :: cs ∧ c ∉ [' ', '\t', '\n', '\r', ']'] := by
  cases h with
  | num hnumber =>
      obtain ⟨c, cs, rfl, hc⟩ := hnumber.exists_cons
      refine ⟨c, cs, rfl, ?_⟩
      simp only [List.mem_cons, List.not_mem_nil, or_false, not_or]
      refine ⟨?_, ?_, ?_, ?_, ?_⟩ <;> exact ne_of_lead hc (by decide) (by decide)
  | _ => exact ⟨_, _, rfl, by decide⟩

lemma readValue?_blanks_append (hw : Blanks w) (cs : List Char) :
    Document.readValue? fuel (w ++ cs) = Document.readValue? fuel cs := by
  cases fuel with
  | zero => rfl
  | succ fuel => rw [Document.readValue?, Document.readValue?, skipBlanks_append hw]

lemma readItems?_blanks_append (hw : Blanks w) (cs : List Char) :
    Document.readItems? fuel (w ++ cs) = Document.readItems? fuel cs := by
  cases fuel with
  | zero => rfl
  | succ fuel => rw [Document.readItems?, Document.readItems?, readValue?_blanks_append hw]

lemma readMembers?_blanks_append (hw : Blanks w) (cs : List Char) :
    Document.readMembers? fuel (w ++ cs) = Document.readMembers? fuel cs := by
  cases fuel with
  | zero => rfl
  | succ fuel => rw [Document.readMembers?, Document.readMembers?, skipBlanks_append hw]

/-- An element, its leading blanks skipped, is not a closing bracket. -/
lemma Element.skipBlanks_append_ne (h : Element d cs) (rest r : List Char) :
    Document.skipBlanks (cs ++ rest) ≠ ']' :: r := by
  cases h with
  | mk hw hvalue _ =>
      obtain ⟨c, cs, rfl, hc⟩ := hvalue.exists_cons
      rw [List.append_assoc, List.append_assoc, skipBlanks_append hw, List.cons_append,
        skipBlanks_cons (fun hblank => hc (List.mem_append_left [']'] hblank))]
      intro heq
      rw [(List.cons.inj heq).1] at hc
      exact hc (by decide)

lemma Elements.skipBlanks_append_ne (h : Elements ds cs) (rest r : List Char) :
    Document.skipBlanks (cs ++ rest) ≠ ']' :: r := by
  cases h with
  | one hd => exact hd.skipBlanks_append_ne rest r
  | cons hd _ =>
      rw [List.append_assoc]
      exact hd.skipBlanks_append_ne _ r

/-- A member, its leading blanks skipped, begins with a quote. -/
lemma Members.skipBlanks_append_ne (h : Members ms cs) (rest r : List Char) :
    Document.skipBlanks (cs ++ rest) ≠ '\x7d' :: r := by
  have hmember : ∀ {m cs}, Member m cs →
      ∀ rest, Document.skipBlanks (cs ++ rest) ≠ '\x7d' :: r := by
    intro m cs hm rest
    cases hm with
    | mk hw =>
        simp only [List.append_assoc, skipBlanks_append hw, List.cons_append]
        rw [skipBlanks_cons (by decide)]
        exact fun heq => absurd (List.cons.inj heq).1 (by decide)
  cases h with
  | one hm => exact hmember hm rest
  | cons hm _ =>
      rw [List.append_assoc]
      exact hmember hm _

end Heads

section Steps

variable {d : Document} {ds : List Document} {ms : List (List TextUnit × Document)}
  {us : List TextUnit} {c : Char} {body rest cs w : List Char} {fuel : ℕ}

lemma readValue?_number (h : c = '-' ∨ ∃ d, Document.digit? c = some d) (cs : List Char) :
    Document.readValue? (fuel + 1) (c :: cs)
      = (Document.readNumber? (c :: cs)).map fun (l, r) => (Document.num l, r) := by
  have hblank : c ∉ [' ', '\t', '\n', '\r'] := by
    simp only [List.mem_cons, List.not_mem_nil, or_false, not_or]
    refine ⟨?_, ?_, ?_, ?_⟩ <;> exact ne_of_lead h (by decide) (by decide)
  rw [Document.readValue?, skipBlanks_cons hblank]
  split
  case h_7 => rfl
  -- the other values begin with characters that no number begins with
  all_goals
    next heq => exact absurd (List.cons.inj heq).1 (ne_of_lead h (by decide) (by decide))

lemma readValue?_emptyArr (hw : Blanks w) (rest : List Char) :
    Document.readValue? (fuel + 1) ('[' :: w ++ ']' :: rest) = some (.arr [], rest) := by
  rw [Document.readValue?, List.cons_append, skipBlanks_cons (by decide)]
  simp only [skipBlanks_append hw, skipBlanks_cons (c := ']') (by decide)]

lemma readValue?_emptyObj (hw : Blanks w) (rest : List Char) :
    Document.readValue? (fuel + 1) ('\x7b' :: w ++ '\x7d' :: rest) = some (.obj [], rest) := by
  rw [Document.readValue?, List.cons_append, skipBlanks_cons (by decide)]
  simp only [skipBlanks_append hw, skipBlanks_cons (c := '\x7d') (by decide)]

/-- Without a closing bracket the array goes on with its items. -/
lemma readValue?_arr (h : ∀ r, Document.skipBlanks cs ≠ ']' :: r) :
    Document.readValue? (fuel + 1) ('[' :: cs)
      = (Document.readItems? fuel cs).map fun (items, r) => (Document.arr items, r) := by
  obtain ⟨w, hw, hcs⟩ := exists_skipBlanks cs
  have hitems : Document.readItems? fuel cs
      = Document.readItems? fuel (Document.skipBlanks cs) := by
    conv_lhs => rw [hcs, readItems?_blanks_append hw]
  rw [Document.readValue?, skipBlanks_cons (by decide), hitems]
  -- `h` excludes the empty form
  simp only

/-- Without a closing brace the object goes on with its members. -/
lemma readValue?_obj (h : ∀ r, Document.skipBlanks cs ≠ '\x7d' :: r) :
    Document.readValue? (fuel + 1) ('\x7b' :: cs)
      = (Document.readMembers? fuel cs).map fun (members, r) => (Document.obj members, r) := by
  obtain ⟨w, hw, hcs⟩ := exists_skipBlanks cs
  have hmembers : Document.readMembers? fuel cs
      = Document.readMembers? fuel (Document.skipBlanks cs) := by
    conv_lhs => rw [hcs, readMembers?_blanks_append hw]
  rw [Document.readValue?, skipBlanks_cons (by decide), hmembers]
  -- `h` excludes the empty form
  simp only

/-- A document that is read from whatever writes it, given enough nested calls. -/
def ReadsBack (d : Document) : Prop :=
  ∀ (body rest : List Char) (fuel : ℕ), Value d body → EndsNumber rest →
    2 * body.length ≤ fuel → Document.readValue? fuel (body ++ rest) = some (d, rest)

/-- Nothing is written by no characters, so one call can always be spent. -/
lemma readsBack_of_succ (h : ∀ (body rest : List Char) (fuel : ℕ), Value d body →
    EndsNumber rest → 2 * body.length ≤ fuel + 1 →
      Document.readValue? (fuel + 1) (body ++ rest) = some (d, rest)) : ReadsBack d := by
  intro body rest fuel hvalue hrest hfuel
  obtain ⟨c, cs, rfl, -⟩ := hvalue.exists_cons
  cases fuel with
  | zero => exact absurd hfuel (by simp)
  | succ fuel => exact h _ rest fuel hvalue hrest hfuel

lemma endsNumber_cons (h : c ∈ [' ', '\t', '\n', '\r', ',', ']', '\x7d']) (cs : List Char) :
    EndsNumber (c :: cs) := by
  have hmarks : ∀ c ∈ [' ', '\t', '\n', '\r', ',', ']', '\x7d'],
      Document.digit? c = none ∧ c ≠ '.' ∧ c ≠ 'e' ∧ c ≠ 'E' := by
    simp [Document.digit?]
  obtain ⟨hdigit, hpoint, hsmall, hcapital⟩ := hmarks c h
  exact ⟨noDigit_cons hdigit cs, by simpa using hpoint, by simpa using hsmall,
    by simpa using hcapital⟩

lemma endsNumber_nil : EndsNumber [] := by
  simp [EndsNumber, NoDigit]

lemma Blanks.endsNumber_append (h : Blanks w) (hrest : EndsNumber rest) :
    EndsNumber (w ++ rest) := by
  cases w with
  | nil => exact hrest
  | cons c w =>
      refine endsNumber_cons ?_ _
      rcases (List.forall_mem_cons.1 h).1 with rfl | rfl | rfl | rfl <;> decide

/-- An element is read up to the blanks behind it. -/
lemma ReadsBack.element (hd : ReadsBack d) (h : Element d cs) (hrest : EndsNumber rest)
    (hfuel : 2 * cs.length ≤ fuel) :
    ∃ behind, Document.readValue? fuel (cs ++ rest) = some (d, behind)
      ∧ Document.skipBlanks behind = Document.skipBlanks rest := by
  cases h with
  | @mk _ w body w' hw hvalue hw' =>
      refine ⟨w' ++ rest, ?_, skipBlanks_append hw' rest⟩
      rw [List.append_assoc, List.append_assoc, readValue?_blanks_append hw]
      refine hd body _ fuel hvalue (hw'.endsNumber_append hrest) ?_
      simp only [List.length_append] at hfuel
      omega

/-- An element with a closing bracket behind it ends the items. -/
lemma readItems?_one (hd : ReadsBack d) (h : Element d cs) (hfuel : 2 * cs.length ≤ fuel)
    (rest : List Char) :
    Document.readItems? (fuel + 1) (cs ++ ']' :: rest) = some ([d], rest) := by
  obtain ⟨behind, hread, hskip⟩ := hd.element h (endsNumber_cons (c := ']') (by decide) rest) hfuel
  rw [skipBlanks_cons (by decide)] at hskip
  rw [Document.readItems?, hread]
  simp only [hskip]

/-- One with a comma behind it stands before further ones. -/
lemma readItems?_cons (hd : ReadsBack d) (h : Element d cs) (hfuel : 2 * cs.length ≤ fuel)
    (rest : List Char) :
    Document.readItems? (fuel + 1) (cs ++ ',' :: rest)
      = (Document.readItems? fuel rest).map fun (ds, r) => (d :: ds, r) := by
  obtain ⟨behind, hread, hskip⟩ := hd.element h (endsNumber_cons (c := ',') (by decide) rest) hfuel
  rw [skipBlanks_cons (by decide)] at hskip
  rw [Document.readItems?, hread]
  simp only [hskip]

/-- A member is read up to its element, and what stands behind that decides how to go on: with a
comma further members follow, with a closing brace they end. -/
lemma readMembers?_member (h : Member (us, d) cs) (hd : ReadsBack d) (hrest : EndsNumber rest)
    (hfuel : 2 * cs.length ≤ fuel) :
    (∀ r, Document.skipBlanks rest = ',' :: r →
      Document.readMembers? (fuel + 1) (cs ++ rest)
        = (Document.readMembers? fuel r).map fun (ms, r) => ((us, d) :: ms, r))
    ∧ ∀ r, Document.skipBlanks rest = '\x7d' :: r →
      Document.readMembers? (fuel + 1) (cs ++ rest) = some ([(us, d)], r) := by
  cases h with
  | @mk _ _ w name w' body hw hname hw' helement =>
      have hlength : 2 * body.length ≤ fuel := by
        simp only [List.length_append, List.length_cons] at hfuel
        omega
      obtain ⟨behind, hread, hskip⟩ := hd.element helement hrest hlength
      simp only [List.append_assoc, List.cons_append]
      rw [Document.readMembers?, skipBlanks_append hw, skipBlanks_cons (by decide)]
      simp only [readString?_append hname, skipBlanks_append hw', hread, hskip,
        skipBlanks_cons (c := ':') (by decide)]
      constructor
      · intro r hr
        simp only [hr]
      · intro r hr
        simp only [hr]

end Steps

mutual

/-- **What is written is read**: a value. -/
theorem readsBack : ∀ d : Document, ReadsBack d
  | .null => by
      refine readsBack_of_succ fun body rest fuel h _ _ => ?_
      cases h
      rfl
  | .bool b => by
      refine readsBack_of_succ fun body rest fuel h _ _ => ?_
      cases h with
      | yes | no => rfl
  | .num l => by
      refine readsBack_of_succ fun body rest fuel h hrest _ => ?_
      cases h with
      | num hnumber =>
          obtain ⟨c, cs, rfl, hc⟩ := hnumber.exists_cons
          rw [List.cons_append, readValue?_number hc, ← List.cons_append,
            readNumber?_append hnumber hrest]
          rfl
  | .str us => by
      refine readsBack_of_succ fun body rest fuel h _ _ => ?_
      cases h with
      | @str _ units hunits =>
          have hstring : Document.readString? (units ++ ['"'] ++ rest) = some (us, rest) := by
            rw [List.append_assoc]
            exact readString?_append hunits rest
          rw [List.cons_append, List.cons_append, Document.readValue?,
            skipBlanks_cons (by decide)]
          simp only [hstring]
          rfl
  | .arr ds => by
      refine readsBack_of_succ fun body rest fuel h _ hfuel => ?_
      cases h with
      | @emptyArr w hw =>
          rw [List.append_assoc]
          exact readValue?_emptyArr hw rest
      | @arr _ inner hitems =>
          simp only [List.length_append, List.length_cons] at hfuel
          rw [List.append_assoc, List.cons_append,
            readValue?_arr (hitems.skipBlanks_append_ne _), List.singleton_append,
            readItems?_append ds inner rest fuel hitems (by omega)]
          rfl
  | .obj ms => by
      refine readsBack_of_succ fun body rest fuel h _ hfuel => ?_
      cases h with
      | @emptyObj w hw =>
          rw [List.append_assoc]
          exact readValue?_emptyObj hw rest
      | @obj _ inner hmembers =>
          simp only [List.length_append, List.length_cons] at hfuel
          rw [List.append_assoc, List.cons_append,
            readValue?_obj (hmembers.skipBlanks_append_ne _), List.singleton_append,
            readMembers?_append ms inner rest fuel hmembers (by omega)]
          rfl

/-- The items of an array up to its bracket. -/
theorem readItems?_append : ∀ (ds : List Document) (body rest : List Char) (fuel : ℕ),
    Elements ds body → 2 * body.length + 1 ≤ fuel →
      Document.readItems? fuel (body ++ ']' :: rest) = some (ds, rest)
  | [], _, _, _, h, _ => nomatch h
  | d :: ds, body, rest, 0, h, hfuel => absurd hfuel (by omega)
  | d :: ds, body, rest, fuel + 1, h, hfuel => by
      cases h with
      | one hd => exact readItems?_one (readsBack d) hd (by omega) rest
      | @cons _ _ cs more hd hmore =>
          simp only [List.length_append, List.length_cons] at hfuel
          rw [List.append_assoc, List.cons_append,
            readItems?_cons (readsBack d) hd (by omega),
            readItems?_append ds more rest fuel hmore (by omega)]
          rfl

/-- The members of an object up to its brace. -/
theorem readMembers?_append : ∀ (ms : List (List TextUnit × Document)) (body rest : List Char)
    (fuel : ℕ), Members ms body → 2 * body.length + 1 ≤ fuel →
      Document.readMembers? fuel (body ++ '\x7d' :: rest) = some (ms, rest)
  | [], _, _, _, h, _ => nomatch h
  | (us, d) :: ms, body, rest, 0, h, hfuel => absurd hfuel (by omega)
  | (us, d) :: ms, body, rest, fuel + 1, h, hfuel => by
      cases h with
      | one hm =>
          have hend := endsNumber_cons (c := '\x7d') (by decide) rest
          exact (readMembers?_member hm (readsBack d) hend (by omega)).2 rest
            (skipBlanks_cons (by decide) rest)
      | @cons _ _ cs more hm hmore =>
          simp only [List.length_append, List.length_cons] at hfuel
          have hlength : 2 * cs.length ≤ fuel := by omega
          have hend := endsNumber_cons (c := ',') (by decide) (more ++ '\x7d' :: rest)
          rw [List.append_assoc, List.cons_append,
            (readMembers?_member hm (readsBack d) hend hlength).1 _ (skipBlanks_cons (by decide) _),
            readMembers?_append ms more rest fuel hmore (by omega)]
          rfl

end

/-- **The reader finds the documents that the grammar has.** -/
theorem read?_eq_some_iff {text : String} {d : Document} :
    Document.read? text = some d ↔ Text d text := by
  rw [Document.read?]
  constructor
  · intro h
    split at h
    · next d' rest hread =>
        split_ifs at h with hempty
        obtain rfl := Option.some.inj h
        obtain ⟨body, htext, helement⟩ := (sound _).element hread
        rw [List.isEmpty_iff.1 hempty, List.append_nil] at htext
        rwa [Text, htext]
    · exact nomatch h
  · intro h
    have hlength : 2 * text.toList.length ≤ 2 * text.toList.length + 2 := by omega
    obtain ⟨behind, hread, hskip⟩ := (readsBack d).element h endsNumber_nil hlength
    rw [List.append_nil] at hread
    simp only [hread, hskip, Document.skipBlanks, List.isEmpty_nil, if_true]

/-- A text is written by one document at most. -/
lemma Text.unique {text : String} {d d' : Document} (h : Text d text) (h' : Text d' text) :
    d = d' :=
  Option.some.inj ((read?_eq_some_iff.2 h).symm.trans (read?_eq_some_iff.2 h'))

end Grammar

end LintConfig
