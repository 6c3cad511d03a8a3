import LintConfig.Proofs.Configuration.Knowledge

/-!
# The verdict and the cost of validation

**The verdict.**  `validate_verdict`: in every state that calls can lead to, `validate` accepts the
configurations all of whose entries pass, and of the others it reports the fault of the first entry
that does not.

**The cost.**  `caches_afterAll`: which definitions are known and which texts are bound after some
calls, and how often the engine was asked, depend only on the definitions that the calls reached, in
whatever order and under whatever names.

Both rest on one assumption, that no two definitions in the registries share a key: a definition is
given a fresh key when it is made, and keeps it.
-/

namespace LintConfig

/-! ## The verdict -/

/-- **Validation meets its reference semantics in every reachable state.**  After any calls, whether
they came to their end or stopped with an error, a configuration is accepted if every entry is
exempt or accepted, and otherwise its error is that of the first entry that is neither. -/
theorem validate_verdict (engine : SchemaEngine) (history : List Configuration)
    (config : Configuration)
    (hkeys : Set.InjOn RuleDefinition.key (definitionsOf (history ++ [config]))) :
    (((RuleValidator.afterAll engine history).validate engine config).1 = .ok ()
        ↔ ∀ e ∈ config.rules.entries,
            Exempt e.1 e.2 ∨ Accepted engine config.plugins e.1 e.2)
      ∧ ∀ error, ((RuleValidator.afterAll engine history).validate engine config).1 = .error error
          ↔ ∃ id entry, ComesTo engine config.plugins config.rules.entries id entry
              ∧ EntryFault engine config.plugins id entry error := by
  have hverdict : ((RuleValidator.afterAll engine history).validate engine config).1
      = plainVerdicts engine config.plugins config.rules.entries :=
    (checkEntries_afterAll hkeys (List.subset_append_left history [config]) (by simp) _).1
  rw [hverdict]
  exact ⟨plainVerdicts_ok_iff, fun error => plainVerdicts_error_iff⟩

/-- A definition whose schema is the empty one. -/
def strictRule : RuleDefinition := ⟨⟨0⟩, .object { schema := some (.obj []) }⟩

/-- A definition whose schema is not the empty one. -/
def openRule : RuleDefinition := ⟨⟨1⟩, .object { schema := some (.obj [("type", .str "array")]) }⟩

/-- A check that is satisfied by the empty list alone. -/
def emptyOnly : SchemaCheck
  | .arr [] => []
  | _ => [⟨"", "not empty"⟩]

/-- A language in which the empty schema compiles, to that check, and no other does. -/
def emptyLanguage : SchemaEngine
  | .obj [] => some emptyOnly
  | _ => none

/-- A definition with a schema for something that is not a list. -/
def stringRule : RuleDefinition :=
  ⟨⟨2⟩, .object { schema := some (.obj [("type", .str "string")]) }⟩

/-- Two names for one definition and one for each of two others; the last entry has an option too
many. -/
def aliasing : Configuration where
  rules := ⟨[("a", [.str "warn"]), ("c", [.str "warn", .null]), ("d", [.str "warn", .null]),
    ("b", [.str "error", .null])], by decide⟩
  plugins := some ⟨[("@", ⟨⟨3⟩, none,
    ⟨[("a", strictRule), ("b", strictRule), ("c", openRule), ("d", stringRule)], by decide⟩⟩)],
    by decide⟩

lemma injOn_key_aliasing : Set.InjOn RuleDefinition.key (definitionsOf [aliasing, aliasing]) := by
  have hdefinitions : ∀ rule ∈ definitionsOf [aliasing, aliasing],
      rule = strictRule ∨ rule = openRule ∨ rule = stringRule := by
    rintro rule ⟨config, hconfig, hrule⟩
    obtain rfl : config = aliasing := by simpa using hconfig
    obtain ⟨name, hname⟩ := exists_mem_of_registered_singleton hrule
    simp only [List.mem_cons, List.not_mem_nil, Prod.mk.injEq, or_false] at hname
    rcases hname with ⟨-, rfl⟩ | ⟨-, rfl⟩ | ⟨-, rfl⟩ | ⟨-, rfl⟩
    · exact Or.inl rfl
    · exact Or.inl rfl
    · exact Or.inr (Or.inl rfl)
    · exact Or.inr (Or.inr rfl)
  intro rule hrule other hother hkey
  rcases hdefinitions rule hrule with rfl | rfl | rfl <;>
    rcases hdefinitions other hother with rfl | rfl | rfl <;>
    first | rfl | exact absurd hkey (by decide)

/-- A second call that stops like the first one, at the same entry. -/
theorem validate_verdict_aliasing :
    Set.InjOn RuleDefinition.key (definitionsOf [aliasing, aliasing])
      ∧ ((RuleValidator.afterAll emptyLanguage [aliasing]).validate emptyLanguage aliasing).1
        = .error (.invalidOptions "b" ["/ not empty."]) := by
  refine ⟨injOn_key_aliasing, ?_⟩
  have hlooked : ¬ Exempt "b" [.str "error", .null] := by
    rintro (hreserved | ⟨n, options, hhead, -⟩)
    · exact absurd hreserved (by decide)
    · exact nomatch hhead
  have hresolve : resolve aliasing.plugins "b" = .ok (⟨"@", "b"⟩, strictRule) := rfl
  have hcheck : emptyLanguage (.obj []) = some emptyOnly := rfl
  refine ((validate_verdict emptyLanguage [aliasing] aliasing injOn_key_aliasing).2 _).2
    ⟨"b", [.str "error", .null], ⟨[("a", [.str "warn"]), ("c", [.str "warn", .null]),
      ("d", [.str "warn", .null])], [], rfl, ?_⟩, ?_⟩
  · intro e he
    simp only [List.mem_cons, List.not_mem_nil, or_false] at he
    rcases he with rfl | rfl | rfl
    · refine Or.inr ⟨⟨"@", "a"⟩, strictRule, rfl, fun schema check hschema hcheck => ?_⟩
      obtain rfl := OptionsSchema.canonical.inj hschema
      obtain rfl := Option.some.inj hcheck
      rfl
    · refine Or.inr ⟨⟨"@", "c"⟩, openRule, rfl, fun schema check hschema hcheck => ?_⟩
      obtain rfl := OptionsSchema.canonical.inj hschema
      exact nomatch hcheck
    · refine Or.inr ⟨⟨"@", "d"⟩, stringRule, rfl, fun schema check hschema => ?_⟩
      exact nomatch hschema
  · exact EntryFault.violated hlooked hresolve rfl hcheck (by simp [emptyOnly])

/-! ## The cost -/

/-- The validator in the middle of a call: some calls have come to their end, and some entries of
one more configuration have been checked. -/
def RuleValidator.during (engine : SchemaEngine) (past : List Configuration)
    (registry : Option Registry) (before : List (String × RuleEntry)) : RuleValidator :=
  ((RuleValidator.afterAll engine past).checkEntries engine registry before).2

/-- **What the caches hold and what it cost**, after any calls on a new validator:

* as many rules are cached as keys of definitions were reached;
* the texts of the reached schemas that compile are bound, each once, and no others;
* the engine was asked once for each of these texts, and once for each reached definition that it
  refuses.

In the middle of any of the calls, evicting a rejected schema finds nothing, what is bound stays
bound through the rest of the call and of the calls behind it, and a definition that was reached is
answered without touching either cache. -/
theorem caches_afterAll (engine : SchemaEngine) (history : List Configuration)
    (hkeys : Set.InjOn RuleDefinition.key (definitionsOf history)) :
    ((RuleValidator.afterAll engine history).cachedRules : ℕ∞)
        = (RuleDefinition.key '' reached engine history).encard
      ∧ (∀ text, text ∈ (RuleValidator.afterAll engine history).compiler.checks.keys
          ↔ text ∈ compiledTexts engine (reached engine history))
      ∧ (RuleValidator.afterAll engine history).compiler.checks.keys.Nodup
      ∧ ((RuleValidator.afterAll engine history).compiler.requests : ℕ∞)
        = (compiledTexts engine (reached engine history)).encard
          + (refusedKeys engine (reached engine history)).encard
      ∧ ∀ past config future before rest,
          history = past ++ config :: future → config.rules.entries = before ++ rest →
          (∀ form schema, RuleForm.optionsSchema form = .rejected schema →
            (RuleValidator.during engine past config.plugins before).compiler.evict schema
              = (false, (RuleValidator.during engine past config.plugins before).compiler))
          ∧ (∀ text check,
              (RuleValidator.during engine past config.plugins before).compiler.checks.get? text
                = some check →
              (∀ more,
                (RuleValidator.during engine past config.plugins
                  (before ++ more)).compiler.checks.get? text = some check)
              ∧ (RuleValidator.afterAll engine history).compiler.checks.get? text = some check)
          ∧ ∀ rule ∈ reached engine past ∪ reachedAmong engine config.plugins before,
              (RuleValidator.during engine past config.plugins before).validatorFor engine rule
                = (plainValidator engine rule.form,
                    RuleValidator.during engine past config.plugins before) := by
  have hknows : Knows engine (reached engine history) (RuleValidator.afterAll engine history) :=
    knows_afterAll hkeys
  refine ⟨hknows.cachedRules, fun text => hknows.mirrors.mem_keys_iff, ?_, hknows.requests, ?_⟩
  · exact (RuleValidator.afterAll engine history).compiler.checks.nodup
  · rintro past config future before rest rfl hentries
    have hduring : ∀ entries,
        Knows engine (reached engine past ∪ reachedAmong engine config.plugins entries)
          (RuleValidator.during engine past config.plugins entries) :=
      fun entries => (checkEntries_afterAll hkeys (List.subset_append_left _ _) (by simp) entries).2
    refine ⟨fun form schema hrejected => evict_of_rejected (hduring before).mirrors hrejected,
      fun text check hget => ⟨fun more => ?_, ?_⟩,
      fun rule hrule => (hduring before).validatorFor_of_mem hrule⟩
    · have hmore : reachedAmong engine config.plugins before
          ⊆ reachedAmong engine config.plugins (before ++ more) :=
        reachedAmong_subset_append before more
      exact (hduring before).get?_mono (hduring _) (Set.union_subset_union_right _ hmore) hget
    · exact (hduring before).get?_mono hknows (reached_union_reachedAmong_subset hentries) hget

/-- Two calls on three definitions, one of them under two names and one without a usable schema. -/
theorem caches_afterAll_aliasing :
    Set.InjOn RuleDefinition.key (definitionsOf [aliasing, aliasing])
      ∧ (RuleDefinition.key '' reached emptyLanguage [aliasing, aliasing]).encard = 3
      ∧ (compiledTexts emptyLanguage (reached emptyLanguage [aliasing, aliasing])).encard
          + (refusedKeys emptyLanguage (reached emptyLanguage [aliasing, aliasing])).encard
        = 2 := by
  obtain ⟨hrules, -, -, hrequests, -⟩ :=
    caches_afterAll emptyLanguage [aliasing, aliasing] injOn_key_aliasing
  exact ⟨injOn_key_aliasing, hrules.symm, hrequests.symm⟩

end LintConfig
