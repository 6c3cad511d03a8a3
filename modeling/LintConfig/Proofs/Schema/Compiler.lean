import LintConfig.Schema.Compiler
import LintConfig.Proofs.Json.Text

/-!
# The schema cache is transparent

A `SchemaCompiler` keeps checks by the text of their schemas.  Since the text determines the schema
(`cacheKey_injective`), a check is never found for a schema it was not compiled from.

**The invariant.**  `Mirrors engine live c` says that `c` holds the checks of the schemas in `live`
that compile, each what the engine gives for it, and nothing else.  Compiling a schema puts it into
`live`, evicting it takes it out (`Mirrors.compile`, `Mirrors.evict`).

**Runs.**  `current` reads off a list of operations which schemas were compiled and not evicted
since.

* `mirrors_after`: that is what the compiler holds after the operations.
* `after_transparent`: every answer of every run is that of the engine itself, and the cache decides
  only when the engine is asked.
-/

namespace LintConfig

namespace SchemaCompiler

lemma cacheKey_injective : Function.Injective cacheKey := Json.text_injective

/-! ## The invariant -/

/-- The compiler holds what the engine gives for the schemas of a set, where it gives anything. -/
structure Mirrors (engine : SchemaEngine) (live : Set Json) (c : SchemaCompiler) : Prop where
  get?_iff : ∀ schema check,
    c.checks.get? (cacheKey schema) = some check ↔ schema ∈ live ∧ engine schema = some check
  /-- Every key is the text of a schema. -/
  exists_schema : ∀ key ∈ c.checks.keys, ∃ schema, cacheKey schema = key

section Steps

variable {engine : SchemaEngine} {live : Set Json} {c : SchemaCompiler}

lemma mirrors_empty : Mirrors engine ∅ {} where
  get?_iff schema check := by
    have hnone : ({} : SchemaCompiler).checks.get? (cacheKey schema) = none := rfl
    simp [hnone]
  exists_schema key hkey := absurd hkey (List.not_mem_nil)

/-- Which texts are bound: those of the live schemas that compile. -/
lemma Mirrors.mem_keys_iff (h : Mirrors engine live c) {key : String} :
    key ∈ c.checks.keys
      ↔ ∃ schema ∈ live, (engine schema).isSome ∧ cacheKey schema = key := by
  constructor
  · intro hkey
    obtain ⟨schema, rfl⟩ := h.exists_schema key hkey
    obtain ⟨check, hget⟩ := Option.isSome_iff_exists.1 (c.checks.mem_keys_iff.1 hkey)
    obtain ⟨hlive, hengine⟩ := (h.get?_iff schema check).1 hget
    exact ⟨schema, hlive, by rw [hengine]; rfl, rfl⟩
  · rintro ⟨schema, hlive, hsome, rfl⟩
    obtain ⟨check, hengine⟩ := Option.isSome_iff_exists.1 hsome
    exact OrderedMap.mem_keys_of_get? ((h.get?_iff schema check).2 ⟨hlive, hengine⟩)

/-- A schema is bound exactly when it is live and compiles. -/
lemma Mirrors.cacheKey_mem_keys_iff (h : Mirrors engine live c) {schema : Json} :
    cacheKey schema ∈ c.checks.keys ↔ schema ∈ live ∧ (engine schema).isSome := by
  rw [h.mem_keys_iff]
  constructor
  · rintro ⟨schema', hlive, hsome, hkey⟩
    obtain rfl := cacheKey_injective hkey
    exact ⟨hlive, hsome⟩
  · rintro ⟨hlive, hsome⟩
    exact ⟨schema, hlive, hsome, rfl⟩

/-- **Whatever is cached, a compilation answers what the engine gives.** -/
lemma Mirrors.compile_fst (h : Mirrors engine live c) (schema : Json) :
    (c.compile engine schema).1 = .ofOutcome (engine schema) := by
  cases hget : c.checks.get? (cacheKey schema) with
  | some check =>
      rw [compile_of_get?_eq_some hget, ((h.get?_iff schema check).1 hget).2]
      rfl
  | none => rw [compile_of_get?_eq_none hget]

/-- The engine is asked for exactly the schemas that are not bound. -/
lemma requests_compile (engine : SchemaEngine) (c : SchemaCompiler) (schema : Json) :
    (c.compile engine schema).2.requests
      = c.requests + if cacheKey schema ∈ c.checks.keys then 0 else 1 := by
  cases hget : c.checks.get? (cacheKey schema) with
  | some check =>
      rw [compile_of_get?_eq_some hget, if_pos (OrderedMap.mem_keys_of_get? hget), Nat.add_zero]
  | none =>
      rw [compile_of_get?_eq_none hget, if_neg (c.checks.get?_eq_none_iff.1 hget)]
      cases engine schema with
      | some check => rfl
      | none => rfl

/-- Compiling makes a schema live. -/
theorem Mirrors.compile (h : Mirrors engine live c) (schema : Json) :
    Mirrors engine (insert schema live) (c.compile engine schema).2 where
  get?_iff other check := by
    rw [get?_compile, Set.mem_insert_iff]
    by_cases hother : other = schema
    · subst hother
      simp only [if_true, true_or, true_and]
      cases hget : c.checks.get? (cacheKey other) with
      | some found => simp [((h.get?_iff other found).1 hget).2]
      | none => simp
    · have hkey : cacheKey schema ≠ cacheKey other := fun heq =>
        hother (cacheKey_injective heq).symm
      simp only [hkey, if_false, hother, false_or]
      exact h.get?_iff other check
  exists_schema key hkey := by
    by_cases hschema : cacheKey schema = key
    · exact ⟨schema, hschema⟩
    · refine h.exists_schema key ?_
      rw [OrderedMap.mem_keys_iff, get?_compile, if_neg hschema] at hkey
      exact c.checks.mem_keys_iff.2 hkey

/-- Evicting makes a schema no longer live. -/
theorem Mirrors.evict (h : Mirrors engine live c) (schema : Json) :
    Mirrors engine (live \ {schema}) (c.evict schema).2 where
  get?_iff other check := by
    rw [get?_evict, Set.mem_sdiff, Set.mem_singleton_iff]
    by_cases hother : other = schema
    · simp [hother]
    · have hkey : cacheKey other ≠ cacheKey schema := fun heq => hother (cacheKey_injective heq)
      simp only [hkey, if_false, hother, not_false_eq_true, and_true]
      exact h.get?_iff other check
  exists_schema key hkey := by
    refine h.exists_schema key ?_
    have hfilter : key ∈ c.checks.keys.filter (fun j => j ≠ cacheKey schema) := by
      rw [← OrderedMap.keys_erase]
      exact hkey
    exact (List.mem_filter.1 hfilter).1

lemma evict_fst (c : SchemaCompiler) (schema : Json) :
    (c.evict schema).1 = decide (cacheKey schema ∈ c.checks.keys) := by
  rw [Bool.eq_iff_iff, decide_eq_true_iff, c.checks.mem_keys_iff]
  rfl

end Steps

/-! ## Runs -/

/-- What a compiler can be asked to do. -/
inductive Operation where
  | compile (schema : Json)
  | evict (schema : Json)

/-- What comes back: a validator, or whether the schema was remembered. -/
inductive Answer where
  | validator (validator : OptionsValidator)
  | evicted (remembered : Bool)

/-- One operation. -/
def perform (engine : SchemaEngine) (c : SchemaCompiler) : Operation → Answer × SchemaCompiler
  | .compile schema =>
    let (validator, c) := c.compile engine schema
    (.validator validator, c)
  | .evict schema =>
    let (remembered, c) := c.evict schema
    (.evicted remembered, c)

/-- Operations one after the other, with all their answers. -/
def performAll (engine : SchemaEngine) (c : SchemaCompiler) :
    List Operation → List Answer × SchemaCompiler
  | [] => ([], c)
  | operation :: rest =>
    let (answer, c) := c.perform engine operation
    let (answers, c) := c.performAll engine rest
    (answer :: answers, c)

/-- The answers of a run that starts with nothing remembered. -/
def answers (engine : SchemaEngine) (operations : List Operation) : List Answer :=
  (performAll engine {} operations).1

/-- The compiler at the end of that run. -/
def after (engine : SchemaEngine) (operations : List Operation) : SchemaCompiler :=
  (performAll engine {} operations).2

/-- The schemas that were compiled with no later eviction of the same schema. -/
def current (operations : List Operation) : Set Json :=
  {schema | ∃ before later,
    operations = before ++ .compile schema :: later ∧ .evict schema ∉ later}

section Runs

variable {engine : SchemaEngine}

lemma performAll_append (c : SchemaCompiler) (before later : List Operation) :
    c.performAll engine (before ++ later)
      = ((c.performAll engine before).1
            ++ ((c.performAll engine before).2.performAll engine later).1,
          ((c.performAll engine before).2.performAll engine later).2) := by
  induction before generalizing c with
  | nil => rfl
  | cons operation rest ih => simp only [List.cons_append, performAll, ih]

lemma answers_append (before later : List Operation) :
    answers engine (before ++ later)
      = answers engine before ++ ((after engine before).performAll engine later).1 := by
  rw [answers, performAll_append]
  rfl

lemma after_append (before later : List Operation) :
    after engine (before ++ later) = ((after engine before).performAll engine later).2 := by
  rw [after, performAll_append]
  rfl

lemma length_performAll (c : SchemaCompiler) (operations : List Operation) :
    (c.performAll engine operations).1.length = operations.length := by
  induction operations generalizing c with
  | nil => rfl
  | cons operation rest ih => simp only [performAll, List.length_cons, ih]

/-- An operation is answered from what came before it, whatever comes after. -/
lemma getElem?_answers (before later : List Operation) (operation : Operation) :
    (answers engine (before ++ operation :: later))[before.length]?
      = some ((after engine before).perform engine operation).1 := by
  have hlength : (answers engine before).length = before.length := length_performAll {} before
  rw [answers_append, ← hlength, List.getElem?_append_right (Nat.le_refl _), Nat.sub_self]
  rfl

/-- The last operation decides about its own schema and leaves the others as they are. -/
lemma mem_current_append_singleton {operations : List Operation} {last : Operation}
    {schema : Json} :
    schema ∈ current (operations ++ [last])
      ↔ last = .compile schema ∨ schema ∈ current operations ∧ last ≠ .evict schema := by
  constructor
  · rintro ⟨before, later, heq, hlater⟩
    rcases List.eq_nil_or_concat' later with rfl | ⟨later, last', rfl⟩
    · have hlast := (List.append_inj' heq rfl).2
      exact Or.inl (List.cons.inj hlast).1
    · rw [← List.cons_append, ← List.append_assoc] at heq
      obtain ⟨hbefore, hlast⟩ := List.append_inj' heq rfl
      obtain rfl := (List.cons.inj hlast).1
      rw [List.mem_append, not_or] at hlater
      exact Or.inr ⟨⟨before, later, hbefore, hlater.1⟩, fun heq => hlater.2 (by simp [heq])⟩
  · rintro (rfl | ⟨⟨before, later, rfl, hlater⟩, hlast⟩)
    · exact ⟨operations, [], rfl, List.not_mem_nil⟩
    · refine ⟨before, later ++ [last], by simp, ?_⟩
      rw [List.mem_append, not_or, List.mem_singleton]
      exact ⟨hlater, hlast.symm⟩

lemma current_compile (operations : List Operation) (schema : Json) :
    current (operations ++ [.compile schema]) = insert schema (current operations) := by
  ext other
  simp [mem_current_append_singleton, eq_comm]

lemma current_evict (operations : List Operation) (schema : Json) :
    current (operations ++ [.evict schema]) = current operations \ {schema} := by
  ext other
  simp [mem_current_append_singleton, eq_comm]

/-- **After a run the compiler holds what was compiled and not evicted since.** -/
theorem mirrors_after (operations : List Operation) :
    Mirrors engine (current operations) (after engine operations) := by
  induction operations using List.reverseRecOn with
  | nil =>
      have hnone : current [] = ∅ := by
        ext schema
        simp [current]
      rw [hnone]
      exact mirrors_empty
  | append_singleton operations last ih =>
      rw [after_append]
      cases last with
      | compile schema =>
          rw [current_compile]
          exact ih.compile schema
      | evict schema =>
          rw [current_evict]
          exact ih.evict schema

/-- **The cache is transparent.**  At every point of every run, with a schema compiled or evicted
there and anything done later:

* a compilation answers with the validator of the engine's own outcome for that very schema, and
  asks the engine exactly if the schema is not bound at that moment;
* the bound texts are those of the schemas that compiled and were not evicted since, so a refused
  schema is never bound;
* an eviction says whether the schema was bound, unbinds it and no other, asks the engine nothing,
  and changes no answer that was given before. -/
theorem after_transparent (engine : SchemaEngine) (before later : List Operation)
    (schema : Json) :
    (∃ validator,
      (answers engine (before ++ .compile schema :: later))[before.length]?
          = some (.validator validator)
        ∧ (validator = .acceptAll ↔ engine schema = none)
        ∧ ∀ check, engine schema = some check →
            ∀ value, validator.validate value = (check value).map Violation.display)
      ∧ (after engine (before ++ [.compile schema])).requests
          = (after engine before).requests
            + (if cacheKey schema ∈ (after engine before).checks.keys then 0 else 1)
      ∧ (∀ key, key ∈ (after engine before).checks.keys
          ↔ ∃ s ∈ current before, (engine s).isSome ∧ cacheKey s = key)
      ∧ (engine schema = none → cacheKey schema ∉ (after engine before).checks.keys)
      ∧ (answers engine (before ++ .evict schema :: later))[before.length]?
          = some (.evicted (decide (cacheKey schema ∈ (after engine before).checks.keys)))
      ∧ cacheKey schema ∉ (after engine (before ++ [.evict schema])).checks.keys
      ∧ (∀ other, other ≠ schema →
          (after engine (before ++ [.evict schema])).checks.get? (cacheKey other)
            = (after engine before).checks.get? (cacheKey other))
      ∧ (after engine (before ++ [.evict schema])).requests = (after engine before).requests
      ∧ answers engine before <+: answers engine (before ++ .evict schema :: later) := by
  have hmirrors : Mirrors engine (current before) (after engine before) := mirrors_after before
  have hevicted : after engine (before ++ [.evict schema])
      = ((after engine before).evict schema).2 := after_append before _
  refine ⟨⟨.ofOutcome (engine schema), ?_, ?_, ?_⟩, ?_, fun key => hmirrors.mem_keys_iff,
    ?_, ?_, ?_, ?_, ?_, ?_⟩
  · rw [getElem?_answers]
    simp only [perform, hmirrors.compile_fst]
  · cases engine schema with
    | none => simp [OptionsValidator.ofOutcome]
    | some check => simp [OptionsValidator.ofOutcome]
  · intro check hcheck value
    rw [hcheck]
    rfl
  · rw [after_append]
    exact requests_compile engine (after engine before) schema
  · intro hrefused hkey
    have hsome := (hmirrors.cacheKey_mem_keys_iff.1 hkey).2
    rw [hrefused] at hsome
    exact nomatch hsome
  · rw [getElem?_answers]
    simp only [perform, evict_fst]
  · rw [hevicted, (hmirrors.evict schema).cacheKey_mem_keys_iff]
    rintro ⟨hlive, -⟩
    exact hlive.2 rfl
  · intro other hother
    rw [hevicted, get?_evict, if_neg fun heq => hother (cacheKey_injective heq)]
  · rw [hevicted]
    rfl
  · rw [answers_append]
    exact List.prefix_append _ _

end Runs

end SchemaCompiler

end LintConfig
