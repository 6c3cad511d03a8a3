import Mathlib
import LintConfig.Command.Run
import LintConfig.Proofs.Command.Check
import LintConfig.Proofs.ConfigFile.Normalization
import LintConfig.Proofs.Configuration.Validation
import LintConfig.Proofs.Severity

/-!
# Which entries a check counts as enabled

The validation skips entries by their head alone, while the report looks severities up by the
identifiers.  `RuleEntry.isDisabled` knows the level zero but not the name `off`, so the two agree
on loaded entries, which begin with a level (`isDisabled_iff_severity?`), and not on others.

**Counting.**  A report counts the entries that are not skipped (`enabledCount_eq`).

**Rewording.**  Nothing but the severity of a skipped entry is ever looked at, so it may be given
another identifier and other options (`validate_eq_of_alike`, `runCheck_eq_of_alike`).

**Looking.**  If the verdict is good, every other entry has been resolved and checked in the state
that validation had come to (`checkEntry_ok_of_checkEntries`).
-/

namespace LintConfig

/-! ## Spelling -/

/-- The ways to write the severity `off`. -/
inductive SpellsOff : Toml.Value → Prop where
  | integer : SpellsOff (.integer 0)
  | float {d : Double} : |d.value| < 1 / 2 ^ 52 → SpellsOff (.float (some d))
  | name {s : String} : s.toList.map Char.toLower = "off".toList → SpellsOff (.string s)

/-- An entry that is written with such a severity, alone or in front of options. -/
def WrittenOff (v : Toml.Value) : Prop :=
  ∃ head options, (v = head ∨ v = .array (head :: options)) ∧ SpellsOff head

section Spelling

variable {v : Toml.Value}

lemma ofName?_eq_off_iff {s : String} : Severity.ofName? s = some .off ↔ s = "off" := by
  constructor
  · intro h
    have hname := List.find?_some h
    exact (of_decide_eq_true hname).symm
  · rintro rfl
    rfl

lemma ofJson?_toJson_eq_off_iff : Severity.ofJson? v.toJson = some .off ↔ SpellsOff v := by
  constructor
  · intro h
    cases v with
    | string s =>
        have hname := ofName?_eq_off_iff.1 h
        exact SpellsOff.name (by rw [← hname, String.toList_ofList])
    | integer i =>
        obtain rfl : i = 0 := Severity.ofNumber?_integer_iff.1 h
        exact SpellsOff.integer
    | float d =>
        cases d with
        | none => simp [Toml.Value.toJson, Severity.ofJson?] at h
        | some d =>
            have hnear := Severity.ofNumber?_eq_some_iff.1 h
            norm_num [Severity.level, Number.value] at hnear
            exact SpellsOff.float (by norm_num; exact hnear)
    | boolean _ | dateTime _ | array _ | table _ =>
        simp [Toml.Value.toJson, Severity.ofJson?, Json.object] at h
  · intro h
    cases h with
    | integer => exact Severity.ofNumber?_level .off
    | float hd =>
        refine Severity.ofNumber?_eq_some_iff.2 ?_
        norm_num [Severity.level, Number.value] at hd ⊢
        exact hd
    | name hs =>
        refine ofName?_eq_off_iff.2 ?_
        rw [hs, String.ofList_toList]

/-- What is written with such a severity says `off`. -/
lemma says_off_iff : (∃ options, ConfigFile.Says v .off options) ↔ WrittenOff v := by
  constructor
  · rintro ⟨options, h⟩
    cases h with
    | alone hv => exact ⟨v, [], Or.inl rfl, ofJson?_toJson_eq_off_iff.1 hv⟩
    | headed hhead => exact ⟨_, options, Or.inr rfl, ofJson?_toJson_eq_off_iff.1 hhead⟩
  · rintro ⟨head, options, rfl | rfl, hhead⟩
    · exact ⟨[], ConfigFile.Says.alone (ofJson?_toJson_eq_off_iff.2 hhead)⟩
    · exact ⟨options, ConfigFile.Says.headed (ofJson?_toJson_eq_off_iff.2 hhead)⟩

end Spelling

/-! ## Skipping -/

/-- An entry that is passed over in every state, whatever its identifier is. -/
def PassedOver (entry : RuleEntry) : Prop :=
  ∀ engine registry rv id,
    RuleValidator.checkEntry engine registry rv id entry = (.ok (), rv)

lemma passedOver_iff {entry : RuleEntry} : PassedOver entry ↔ entry.isDisabled = true := by
  constructor
  · intro h
    by_contra hused
    rw [Bool.not_eq_true] at hused
    -- without a registry no other entry gets through
    have hpass := congrArg Prod.fst (h (fun _ => none) none {} "")
    have hlooked : isSkipped "" entry = false := by simp [isSkipped, reservedId, hused]
    have hresolve : resolve none "" = .error .emptyIdentifier := rfl
    simp [RuleValidator.checkEntry, hlooked, lookupRule, hresolve] at hpass
  · intro h engine registry rv id
    simp [RuleValidator.checkEntry, isSkipped, h]

/-- Entries as they are loaded, with a level at the head of each. -/
def Levelled (config : Configuration) : Prop :=
  ∀ e ∈ config.rules.entries, ∃ (severity : Severity) (options : List Json),
    e.2 = severity.toJson :: options

section Levels

variable {config : Configuration}

/-- **Skipping agrees with the severity.** -/
lemma isDisabled_iff_severity? (h : Levelled config) {e : String × RuleEntry}
    (he : e ∈ config.rules.entries) :
    e.2.isDisabled = true ↔ config.severity? e.1 = some .off := by
  obtain ⟨severity, options, heq⟩ := h e he
  rw [severity?_of_mem he heq, heq, isDisabled_toJson_iff, Option.some.injEq]

/-- **A report counts the entries that are not skipped.** -/
lemma enabledCount_eq (h : Levelled config) :
    CheckReport.enabledCount config = config.rules.entries.countP fun e => !e.2.isDisabled := by
  rw [CheckReport.enabledCount, OrderedMap.keys, ← List.countP_eq_length_filter, List.countP_map]
  refine List.countP_congr fun e he => ?_
  obtain ⟨severity, options, heq⟩ := h e he
  have hdisabled : e.2.isDisabled = true ↔ severity = .off := by rw [heq, isDisabled_toJson_iff]
  simp [severity?_of_mem he heq, ← hdisabled]

lemma enabledCount_add_disabled (h : Levelled config) :
    CheckReport.enabledCount config + config.rules.entries.countP (fun e => e.2.isDisabled)
      = config.rules.size := by
  have hsplit := List.length_eq_countP_add_countP (l := config.rules.entries)
    fun e => e.2.isDisabled
  simp only [Bool.not_eq_true, Bool.decide_eq_false] at hsplit
  rw [enabledCount_eq h, OrderedMap.size]
  omega

end Levels

section Reports

variable {engine : SchemaEngine} {source : ConfigSource} {config : Configuration}

variable (engine source config) in
/-- What a check prints for programs. -/
lemma exists_stdout_runCheck_json :
    ∃ fault, (Command.runCheck engine source config .json).stdout
      = (CheckReport.json source config fault).pretty ++ "\n" := by
  cases h : (RuleValidator.validate engine {} config).1 with
  | ok _ => exact ⟨none, by rw [runCheck_of_ok h]⟩
  | error error => exact ⟨some error, by rw [runCheck_of_error h]⟩

lemma stdout_runCheck_text
    (hcode : (Command.runCheck engine source config .text).code = 0) :
    (Command.runCheck engine source config .text).stdout = CheckReport.text source config := by
  cases h : (RuleValidator.validate engine {} config).1 with
  | ok _ => rw [runCheck_of_ok h]
  | error error =>
      rw [runCheck_of_error h] at hcode
      exact absurd hcode Nat.one_ne_zero

end Reports

/-! ## Rewording -/

/-- Entries that differ at most where both are skipped. -/
def Alike (e e' : String × RuleEntry) : Prop :=
  e = e' ∨ e.2.isDisabled = true ∧ e'.2.isDisabled = true

section Rewording

variable {engine : SchemaEngine} {registry : Option Registry}
  {entries entries' : List (String × RuleEntry)} {config config' : Configuration}

lemma Alike.checkEntry {e e' : String × RuleEntry} (h : Alike e e') (rv : RuleValidator) :
    rv.checkEntry engine registry e.1 e.2 = rv.checkEntry engine registry e'.1 e'.2 := by
  rcases h with rfl | ⟨hoff, hoff'⟩
  · rfl
  · rw [passedOver_iff.2 hoff, passedOver_iff.2 hoff']

/-- By induction on the entries, in any state. -/
lemma checkEntries_eq_of_alike (h : List.Forall₂ Alike entries entries') (rv : RuleValidator) :
    rv.checkEntries engine registry entries = rv.checkEntries engine registry entries' := by
  induction h generalizing rv with
  | nil => rfl
  | @cons e e' rest rest' hfirst _ ih =>
      rw [RuleValidator.checkEntries, RuleValidator.checkEntries, hfirst.checkEntry rv]
      split
      · rfl
      · exact ih _

lemma validate_eq_of_alike (hplugins : config'.plugins = config.plugins)
    (h : List.Forall₂ Alike config.rules.entries config'.rules.entries) (rv : RuleValidator) :
    rv.validate engine config' = rv.validate engine config := by
  rw [RuleValidator.validate, RuleValidator.validate, hplugins, checkEntries_eq_of_alike h]

lemma countP_eq_of_alike (h : List.Forall₂ Alike entries entries') :
    (entries'.countP fun e => !e.2.isDisabled) = entries.countP fun e => !e.2.isDisabled := by
  induction h with
  | nil => rfl
  | cons hfirst _ ih =>
      rcases hfirst with rfl | ⟨hoff, hoff'⟩
      · rw [List.countP_cons, List.countP_cons, ih]
      · rw [List.countP_cons, List.countP_cons, ih, hoff, hoff']

/-- **Skipped entries show in a check by their number alone.** -/
lemma runCheck_eq_of_alike (hlevels : Levelled config) (hlevels' : Levelled config')
    (hplugins : config'.plugins = config.plugins)
    (h : List.Forall₂ Alike config.rules.entries config'.rules.entries) (engine : SchemaEngine)
    (source : ConfigSource) (format : ReportFormat) :
    Command.runCheck engine source config' format
      = Command.runCheck engine source config format := by
  have hsize : config'.rules.size = config.rules.size := h.length_eq.symm
  have henabled : CheckReport.enabledCount config' = CheckReport.enabledCount config := by
    rw [enabledCount_eq hlevels, enabledCount_eq hlevels', countP_eq_of_alike h]
  have htext : CheckReport.text source config' = CheckReport.text source config := by
    unfold CheckReport.text
    rw [hsize, henabled]
  simp only [Command.runCheck, validate_eq_of_alike hplugins h, CheckReport.json, hsize, henabled,
    htext]

end Rewording

/-! ## Looking -/

section Looking

variable {engine : SchemaEngine} {registry : Option Registry} {rv : RuleValidator}
  {before later : List (String × RuleEntry)} {e : String × RuleEntry}

/-- If all entries are let through, so is each in the state that was come to. -/
lemma checkEntry_ok_of_checkEntries
    (h : (rv.checkEntries engine registry (before ++ e :: later)).1 = .ok ()) :
    ((rv.checkEntries engine registry before).2.checkEntry engine registry e.1 e.2).1
      = .ok () := by
  induction before generalizing rv with
  | nil =>
      rw [List.nil_append, RuleValidator.checkEntries] at h
      rw [RuleValidator.checkEntries]
      cases hcheck : rv.checkEntry engine registry e.1 e.2 with
      | mk verdict rest =>
          rw [hcheck] at h
          cases verdict with
          | error error => simp at h
          | ok _ => rfl
  | cons first before ih =>
      rw [List.cons_append, RuleValidator.checkEntries] at h
      rw [RuleValidator.checkEntries]
      cases hcheck : rv.checkEntry engine registry first.1 first.2 with
      | mk verdict rest =>
          rw [hcheck] at h
          cases verdict with
          | error error => simp at h
          | ok _ => exact ih h

/-- An entry that is not skipped is let through only if it is resolved and the validator of its
definition finds nothing wrong with its options. -/
lemma exists_resolve_of_checkEntry (hid : e.1 ≠ "__proto__") (hused : e.2.isDisabled = false)
    (h : (rv.checkEntry engine registry e.1 e.2).1 = .ok ()) :
    ∃ name rule, resolve registry e.1 = .ok (name, rule)
      ∧ ∀ validator, (rv.validatorFor engine rule).1 = some validator →
        validator.validate e.2.options = [] := by
  have hlooked : isSkipped e.1 e.2 = false := by simp [isSkipped, reservedId, hid, hused]
  rw [RuleValidator.checkEntry, hlooked, if_neg Bool.false_ne_true, lookupRule] at h
  cases hresolve : resolve registry e.1 with
  | error failure =>
      rw [hresolve] at h
      simp at h
  | ok found =>
      rw [hresolve] at h
      exact ⟨found.1, found.2, rfl, checkOptions_ok_iff.1 h⟩

end Looking

/-! ## Loaded entries -/

namespace ConfigFile

/-- A file whose entries are those of another one, but for entries that are off in both. -/
def Rewords (again file : ConfigFile) : Prop :=
  again.plugins = file.plugins
    ∧ List.Forall₂ (fun w w' => w = w' ∨ WrittenOff w.2 ∧ WrittenOff w'.2)
        file.rules.entries again.rules.entries

section Loaded

variable {view : FileView} {base : Path} {builtins : Plugin} {next : Nat}
  {file again : ConfigFile} {config : Configuration}

lemma normalizes_written {w : String × Toml.Value} {severity : Severity}
    {options : List Toml.Value} (h : Says w.2 severity options) :
    Normalizes w (w.1, severity.toJson :: options.map Toml.Value.toJson) :=
  ⟨rfl, normalize_toJson_eq_ok_iff.2 ⟨severity, options, h, rfl⟩⟩

lemma isDisabled_iff_of_normalizes {w : String × Toml.Value} {e : String × RuleEntry}
    (h : Normalizes w e) : e.2.isDisabled = true ↔ WrittenOff w.2 := by
  rw [← says_off_iff]
  constructor
  · intro hoff
    obtain ⟨severity, options, hsays, hentry⟩ := normalize_toJson_eq_ok_iff.1 h.2
    rw [hentry, isDisabled_toJson_iff] at hoff
    exact ⟨options, hoff ▸ hsays⟩
  · rintro ⟨options, hsays⟩
    rw [Except.ok.inj (h.2.symm.trans (normalizes_written hsays).2), isDisabled_toJson_iff]

lemma levelled_of_load (h : file.load view base builtins next = .ok config) : Levelled config := by
  obtain ⟨-, -, -, -, hrules⟩ := load_eq_ok_iff.1 h
  exact fun e he => exists_severity_of_forall₂ (ruleEntries_eq_ok_iff.1 hrules) he

/-- What is written off can be normalized, and is skipped. -/
lemma exists_normalizes_of_writtenOff {w : String × Toml.Value} (h : WrittenOff w.2) :
    ∃ e, Normalizes w e ∧ e.2.isDisabled = true := by
  obtain ⟨options, hsays⟩ := says_off_iff.2 h
  exact ⟨_, normalizes_written hsays, isDisabled_toJson_iff.2 rfl⟩

/-- By induction on the entries as they are written. -/
lemma exists_alike {written written' : List (String × Toml.Value)}
    {loaded : List (String × RuleEntry)}
    (hwords : List.Forall₂ (fun w w' => w = w' ∨ WrittenOff w.2 ∧ WrittenOff w'.2) written written')
    (h : List.Forall₂ Normalizes written loaded) :
    ∃ loaded', List.Forall₂ Normalizes written' loaded' ∧ List.Forall₂ Alike loaded loaded' := by
  induction hwords generalizing loaded with
  | nil =>
      cases h
      exact ⟨[], List.Forall₂.nil, List.Forall₂.nil⟩
  | cons hfirst _ ih =>
      obtain _ | ⟨hnormal, hrest⟩ := h
      obtain ⟨later, hlater, halike⟩ := ih hrest
      rcases hfirst with rfl | ⟨hoff, hoff'⟩
      · exact ⟨_, List.Forall₂.cons hnormal hlater, List.Forall₂.cons (Or.inl rfl) halike⟩
      · obtain ⟨e', hnormal', hskipped⟩ := exists_normalizes_of_writtenOff hoff'
        refine ⟨e' :: later, List.Forall₂.cons hnormal' hlater, List.Forall₂.cons ?_ halike⟩
        exact Or.inr ⟨(isDisabled_iff_of_normalizes hnormal).2 hoff, hskipped⟩

/-- **A reworded file loads** with the same plugins, and with entries that are alike. -/
lemma exists_load_of_rewords (h : file.load view base builtins next = .ok config)
    (hwords : again.Rewords file) :
    ∃ config', again.load view base builtins next = .ok config' ∧ config'.plugins = config.plugins
      ∧ List.Forall₂ Alike config.rules.entries config'.rules.entries := by
  obtain ⟨registry, next', hregister, hplugins, hrules⟩ := load_eq_ok_iff.1 h
  obtain ⟨loaded', hloaded, halike⟩ := exists_alike hwords.2 (ruleEntries_eq_ok_iff.1 hrules)
  have hnodup : (loaded'.map Prod.fst).Nodup := by
    rw [map_fst_of_forall₂ hloaded]
    exact again.rules.nodup
  refine ⟨⟨⟨loaded', hnodup⟩, config.plugins⟩, load_eq_ok_iff.2 ?_, rfl, halike⟩
  rw [hwords.1]
  exact ⟨registry, next', hregister, hplugins, ruleEntries_eq_ok_iff.2 hloaded⟩

end Loaded

/-- **Skipping, severities and reports agree on every loaded configuration.**

* The entries that are skipped as disabled are those that are passed over in every state whatever
  they are called, those whose severity is `off`, and those that are written so, in any spelling.
* In every report, the rules that are not enabled are as many as these entries.
* Other identifiers and options for them change neither the verdict, in any state, nor the report.
* If the verdict is good, every other entry has been resolved, and the validator of its definition,
  in the state that validation had come to, has found nothing wrong with its options, unless the
  entry stands under the reserved identifier. -/
theorem load_enabled (file : ConfigFile) (view : FileView) (base : Path) (builtins : Plugin)
    (next : Nat) (config : Configuration)
    (hload : file.load view base builtins next = .ok config) :
    (∀ e ∈ config.rules.entries, (e.2.isDisabled = true ↔ PassedOver e.2)
        ∧ (e.2.isDisabled = true ↔ config.severity? e.1 = some .off))
      ∧ List.Forall₂ (fun written loaded => loaded.1 = written.1
            ∧ (loaded.2.isDisabled = true ↔ WrittenOff written.2))
          file.rules.entries config.rules.entries
      ∧ (∀ engine source, ∃ report place rules enabled,
          (Command.runCheck engine source config .json).stdout = Json.pretty report ++ "\n"
            ∧ report.member? "rules" = some (Json.ofNat rules)
            ∧ report.member? "enabled" = some (Json.ofNat enabled)
            ∧ ((Command.runCheck engine source config .text).code = 0 →
                (Command.runCheck engine source config .text).stdout
                  = "\x1b[32mok\x1b[0m " ++ place ++ ": " ++ toString rules
                    ++ " rule(s) configured, " ++ toString enabled ++ " enabled\n")
            ∧ enabled + config.rules.entries.countP (fun e => e.2.isDisabled) = rules)
      ∧ (∀ again : ConfigFile, again.Rewords file →
          ∃ config', again.load view base builtins next = .ok config'
            ∧ (∀ engine (rv : RuleValidator),
                rv.validate engine config' = rv.validate engine config)
            ∧ ∀ engine source format, Command.runCheck engine source config' format
                = Command.runCheck engine source config format)
      ∧ ∀ engine (rv : RuleValidator), (rv.validate engine config).1 = .ok () →
          ∀ before e later severity, config.rules.entries = before ++ e :: later →
            config.severity? e.1 = some severity → severity ≠ .off → e.1 ≠ "__proto__" →
            ∃ name rule, resolve config.plugins e.1 = .ok (name, rule)
              ∧ ∀ validator, ((rv.checkEntries engine config.plugins before).2.validatorFor engine
                  rule).1 = some validator → validator.validate e.2.options = [] := by
  have hlevels : Levelled config := levelled_of_load hload
  obtain ⟨-, -, -, -, hrules⟩ := load_eq_ok_iff.1 hload
  refine ⟨fun e he => ⟨passedOver_iff.symm, isDisabled_iff_severity? hlevels he⟩, ?_,
    fun engine source => ?_, fun again hwords => ?_,
    fun engine rv hok before e later severity hentries hseverity hused hid => ?_⟩
  · exact (ruleEntries_eq_ok_iff.1 hrules).imp fun w e h => ⟨h.1, isDisabled_iff_of_normalizes h⟩
  · obtain ⟨fault, hjson⟩ := exists_stdout_runCheck_json engine source config
    exact ⟨CheckReport.json source config fault, _, _, _, hjson, rfl, rfl, stdout_runCheck_text,
      enabledCount_add_disabled hlevels⟩
  · obtain ⟨config', hload', hplugins, halike⟩ := exists_load_of_rewords hload hwords
    exact ⟨config', hload', fun engine rv => validate_eq_of_alike hplugins halike rv,
      runCheck_eq_of_alike hlevels (levelled_of_load hload') hplugins halike⟩
  · have he : e ∈ config.rules.entries := by simp [hentries]
    have hnot : e.2.isDisabled = false := by
      rw [← Bool.not_eq_true, isDisabled_iff_severity? hlevels he, hseverity, Option.some.injEq]
      exact hused
    rw [RuleValidator.validate, hentries] at hok
    exact exists_resolve_of_checkEntry hid hnot (checkEntry_ok_of_checkEntries hok)

/-- A file with a rule in use and two that are off, one by name and one by a double. -/
def quietFile : ConfigFile where
  rules := ⟨[("a", .string "Warn"), ("b", .array [.string "OFF", .boolean true]),
    ("c", .float (some (Double.zero true)))], by decide⟩

/-- The same file with unknown identifiers and other options for those that are off. -/
def rewordedFile : ConfigFile where
  rules := ⟨[("a", .string "Warn"), ("nowhere", .integer 0),
    ("stray", .array [.integer 0, .integer 7])], by decide⟩

/-- A plugin with one rule, whose schema is the empty one. -/
def strictPlugin : Plugin := ⟨⟨3⟩, none, ⟨[("a", strictRule)], by decide⟩⟩

/-- What the file comes to with this plugin. -/
def quietConfig : Configuration where
  rules := ⟨[("a", [.num (.integer 1)]), ("b", [.num (.integer 0), .bool true]),
    ("c", [.num (.integer 0)])], by decide⟩
  plugins := some ⟨[("@", strictPlugin)], by decide⟩

lemma spellsOff_name : SpellsOff (.string "OFF") := SpellsOff.name (by decide)

lemma spellsOff_zero : SpellsOff (.float (some (Double.zero true))) := by
  refine SpellsOff.float ?_
  norm_num [Double.value, Double.magnitude_eq, Double.zero]

lemma load_quietFile (view : FileView) :
    quietFile.load view ⟨"."⟩ strictPlugin 4 = .ok quietConfig := by
  have hwarn : Severity.ofJson? (.str "Warn") = some .warn := by decide +kernel
  refine load_eq_ok_iff.2 ⟨_, 4, rfl, rfl, ruleEntries_eq_ok_iff.2 (List.Forall₂.cons ⟨rfl, ?_⟩
    (List.Forall₂.cons ⟨rfl, ?_⟩ (List.Forall₂.cons ⟨rfl, ?_⟩ List.Forall₂.nil)))⟩
  · exact normalize_toJson_eq_ok_iff.2 ⟨.warn, [], Says.alone hwarn, rfl⟩
  · exact normalize_toJson_eq_ok_iff.2
      ⟨.off, _, Says.headed (ofJson?_toJson_eq_off_iff.2 spellsOff_name), rfl⟩
  · exact normalize_toJson_eq_ok_iff.2
      ⟨.off, [], Says.alone (ofJson?_toJson_eq_off_iff.2 spellsOff_zero), rfl⟩

lemma rewords_quietFile : rewordedFile.Rewords quietFile := by
  refine ⟨rfl, List.Forall₂.cons (Or.inl rfl) (List.Forall₂.cons (Or.inr ⟨?_, ?_⟩)
    (List.Forall₂.cons (Or.inr ⟨?_, ?_⟩) List.Forall₂.nil))⟩
  · exact ⟨_, _, Or.inr rfl, spellsOff_name⟩
  · exact ⟨_, [], Or.inl rfl, SpellsOff.integer⟩
  · exact ⟨_, [], Or.inl rfl, spellsOff_zero⟩
  · exact ⟨_, _, Or.inr rfl, SpellsOff.integer⟩

/-- Two of three rules are skipped, the unknown identifiers do not show, and the third rule is
resolved and checked. -/
theorem load_enabled_quietFile :
    quietFile.load (fun _ => none) ⟨"."⟩ strictPlugin 4 = .ok quietConfig
      ∧ PassedOver [.num (.integer 0), .bool true]
      ∧ (∃ config', rewordedFile.load (fun _ => none) ⟨"."⟩ strictPlugin 4 = .ok config'
          ∧ ∀ engine source format, Command.runCheck engine source config' format
              = Command.runCheck engine source quietConfig format)
      ∧ ∃ name rule, resolve quietConfig.plugins "a" = .ok (name, rule)
          ∧ ∀ validator, (({} : RuleValidator).validatorFor emptyLanguage rule).1 = some validator →
            validator.validate (.arr []) = [] := by
  have hload := load_quietFile fun _ => none
  obtain ⟨hskips, -, -, hrewords, hlooks⟩ := load_enabled _ _ _ _ _ _ hload
  have hentry : ("b", [.num (.integer 0), .bool true]) ∈ quietConfig.rules.entries := by
    simp [quietConfig]
  have hoff : RuleEntry.isDisabled (Severity.off.toJson :: [.bool true]) = true :=
    isDisabled_toJson_iff.2 rfl
  obtain ⟨config', hload', -, hreport⟩ := hrewords rewordedFile rewords_quietFile
  have hok : (RuleValidator.validate emptyLanguage {} quietConfig).1 = .ok () := by
    decide +kernel
  have hseverity : quietConfig.severity? "a" = some .warn := by decide +kernel
  have hlooked := hlooks emptyLanguage {} hok [] ("a", [.num (.integer 1)]) _ .warn rfl hseverity
    (by decide) (by decide)
  exact ⟨hload, (hskips _ hentry).1.1 hoff, ⟨config', hload', hreport⟩, hlooked⟩

end ConfigFile

end LintConfig
