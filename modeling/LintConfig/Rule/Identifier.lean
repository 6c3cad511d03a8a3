/-!
# Rule identifiers

An identifier is a plugin name and a rule name with a slash between them.  Both names may hold
slashes themselves, so an identifier with several slashes can be taken apart in several ways.

`RuleId.splits` lists them all, the shortest plugin name first: a pair is in the list exactly when
putting a slash between its parts gives the identifier.
-/

namespace LintConfig

namespace RuleId

/-- Every way to cut a text at a slash, the shortest first part first. -/
def splitsChars : List Char → List (List Char × List Char)
  | [] => []
  | c :: rest =>
    let later := (splitsChars rest).map fun (before, after) => (c :: before, after)
    if c = '/' then ([], rest) :: later else later

/-- Every plugin name and rule name that an identifier may stand for, the shortest plugin name
first. -/
def splits (id : String) : List (String × String) :=
  (splitsChars id.toList).map fun (plugin, rule) => (String.ofList plugin, String.ofList rule)

/-- The identifier of a rule in a plugin. -/
def join (plugin rule : String) : String := plugin ++ "/" ++ rule

/-- Putting a character in front of every first part. -/
theorem cons_mem_map_cons {c b : Char} {before after : List Char}
    {l : List (List Char × List Char)} :
    (b :: before, after) ∈ l.map (fun p => (c :: p.1, p.2)) ↔ b = c ∧ (before, after) ∈ l := by
  rw [List.mem_map]
  constructor
  · rintro ⟨⟨x, y⟩, hm, he⟩
    simp only [Prod.mk.injEq, List.cons.injEq] at he
    obtain ⟨⟨rfl, rfl⟩, rfl⟩ := he
    exact ⟨rfl, hm⟩
  · rintro ⟨rfl, hm⟩
    exact ⟨_, hm, rfl⟩

/-- A cut at a slash loses nothing, and every slash gives a cut. -/
theorem mem_splitsChars {cs before after : List Char} :
    (before, after) ∈ splitsChars cs ↔ before ++ '/' :: after = cs := by
  induction cs generalizing before with
  | nil => simp [splitsChars]
  | cons c rest ih =>
    cases before with
    | nil =>
      by_cases h : c = '/'
      · subst h; simp [splitsChars, eq_comm]
      · simp [splitsChars, h, eq_comm]
    | cons b before =>
      by_cases h : c = '/'
      · simp only [splitsChars, h, if_true, List.mem_cons, Prod.mk.injEq, List.cons_ne_nil,
          false_and, false_or, List.cons_append, List.cons.injEq]
        exact cons_mem_map_cons.trans (and_congr_right fun _ => ih)
      · simp only [splitsChars, h, if_false, List.cons_append, List.cons.injEq]
        exact cons_mem_map_cons.trans (and_congr_right fun _ => ih)

/-- An identifier can be cut once for each of its slashes. -/
theorem length_splitsChars (cs : List Char) : (splitsChars cs).length = cs.count '/' := by
  induction cs with
  | nil => rfl
  | cons c rest ih =>
    by_cases h : c = '/' <;> simp [splitsChars, h, ih]

end RuleId

end LintConfig
