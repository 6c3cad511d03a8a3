import Mathlib
import LintConfig.Command.Run
import LintConfig.Proofs.ConfigFile.Loading
import LintConfig.Proofs.Configuration.Reference
import LintConfig.Proofs.Registration
import LintConfig.Proofs.Schema.Language
import LintConfig.Proofs.Schema.Plain
import LintConfig.Proofs.Toml.Document

/-!
# What becomes of a preset

**Built-in rules.**  The schemas of the rules that presets use refer to nothing, so it is found out
without a catalog which options they accept (`RuleForm.plainlyAccepts`).

**Entries.**  Sorting the rules for the file keeps them (`sortedRules_perm`), so what is known of
the rules of a preset is known of the entries of the file.

**Reading.**  These entries can all be written, and the comment in front of them holds no statement,
so the text of a new configuration file is read as the file with these entries (`parse?_render`).

**Loading.**  Every entry turns a built-in rule on, with options that it accepts (`accepted_rules`).
So the file loads to as many entries as the preset has rules, whatever files there are
(`load_file`).
-/

namespace LintConfig

/-! ## Built-in rules -/

/-- Whether some options satisfy the schema of a form, found out for plain schemas. -/
def RuleForm.plainlyAccepts (form : RuleForm) (options : List Json) : Bool :=
  match form.optionsSchema with
  | .canonical v =>
    v.isPlainWithin 8 && (Schema.ofJson? CompiledSchema.plainSetting v).all fun schema =>
      schema.check CompiledSchema.noTarget (.arr options) .report = some []
  | _ => true

section Builtin

variable {form : RuleForm} {options : List Json}

lemma check_eq_nil_of_plainlyAccepts (h : form.plainlyAccepts options = true) {v : Json}
    {check : SchemaCheck} (hv : form.optionsSchema = .canonical v)
    (hcheck : SchemaEngine.draft04 v = some check) : check (.arr options) = [] := by
  rw [RuleForm.plainlyAccepts, hv, Bool.and_eq_true] at h
  obtain ⟨-, schema, hschema, rfl⟩ :=
    (draft04_eq_some_iff_of_plain (Json.Plain.of_isPlainWithin h.1)).1 hcheck
  have hnone := h.2
  rw [hschema] at hnone
  exact SchemaLanguage.getD_endlessReport_eq_nil_iff.2 (of_decide_eq_true hnone)

/-- A bare identifier of a built-in rule is accepted with options that the rule accepts. -/
lemma accepted_of_builtin {registry : Registry} {first : Nat} {id : String}
    (hregistry : registry.get? "@" = some (builtin.number first))
    (hform : builtin.rules.get? id = some form) (hid : id ≠ "") (hbare : '/' ∉ id.toList)
    (haccepts : form.plainlyAccepts options = true) (head : Json) :
    Accepted .draft04 (some registry) id (head :: options) := by
  have hforms : builtin.rules = (builtin.number first).rules.mapValues RuleDefinition.form :=
    congrArg PluginDeclaration.rules (Plugin.declaration_number builtin first).symm
  rw [hforms, OrderedMap.get?_mapValues] at hform
  obtain ⟨rule, hrule, rfl⟩ := Option.map_eq_some_iff.1 hform
  have hfound : registry.rule? "@" id = some rule := by
    rw [Registry.rule?, hregistry]
    exact hrule
  exact ⟨⟨"@", id⟩, rule, (resolve_of_bare_iff hid hbare).2 ⟨rfl, hfound⟩,
    fun v check hv hcheck => check_eq_nil_of_plainlyAccepts haccepts hv hcheck⟩

end Builtin

namespace Preset

/-! ## Entries -/

lemma place_perm (rule : String × List Toml.Value) (rest : List (String × List Toml.Value)) :
    (place rule rest).Perm (rule :: rest) := by
  induction rest with
  | nil => rfl
  | cons other rest ih =>
      rw [place]
      split_ifs
      · exact (ih.cons other).trans (List.Perm.swap rule other rest)
      · rfl

/-- **Sorting keeps the rules.** -/
lemma sortedRules_perm (p : Preset) : p.sortedRules.Perm p.rules := by
  rw [sortedRules]
  induction p.rules with
  | nil => rfl
  | cons rule rest ih => exact (place_perm rule _).trans (ih.cons rule)

lemma nodup_rules (p : Preset) : (p.rules.map Prod.fst).Nodup := by
  cases p <;> simp [rules, asError]

/-- The entries that a new configuration file has. -/
def fileEntries (p : Preset) : List (String × Toml.Value) :=
  p.sortedRules.map fun rule => (rule.1, written rule.2)

lemma mem_fileEntries_iff {p : Preset} {e : String × Toml.Value} :
    e ∈ p.fileEntries ↔ ∃ rule ∈ p.rules, e = (rule.1, written rule.2) := by
  simp only [fileEntries, List.mem_map, p.sortedRules_perm.mem_iff, eq_comm]

lemma nodup_fileEntries (p : Preset) : (p.fileEntries.map Prod.fst).Nodup := by
  rw [fileEntries, List.map_map]
  exact (p.sortedRules_perm.map Prod.fst).nodup_iff.2 p.nodup_rules

lemma length_fileEntries (p : Preset) : p.fileEntries.length = p.rules.length := by
  rw [fileEntries, List.length_map, p.sortedRules_perm.length_eq]

/-! ## Reading -/

lemma toList_header : header.toList = (headerLines.map String.toList).flatMap (· ++ ['\n']) := by
  simp [header, List.flatMap_map]

lemma isIdle_headerLines : ∀ line ∈ headerLines.map String.toList, Toml.isIdle line = true := by
  simp [headerLines, Toml.isIdle, Toml.isPlain]

lemma writable_fileEntries (p : Preset) :
    ∀ e ∈ p.fileEntries, Toml.Writable Toml.nestingLimit e.2 := by
  have hlimit : Toml.nestingLimit = 77 + 1 + 1 := rfl
  have hrules : ∀ rule ∈ p.rules, Toml.Writable (77 + 1 + 1) (written rule.2) := by
    cases p <;> simp [rules, asError, setting, written]
  intro e he
  obtain ⟨rule, hrule, rfl⟩ := mem_fileEntries_iff.1 he
  rw [hlimit]
  exact hrules rule hrule

/-- No table in a preset is marked as a date-time. -/
lemma settle?_fileEntries (p : Preset) : ∀ e ∈ p.fileEntries, e.2.settle? = some e.2 := by
  have hrules : ∀ rule ∈ p.rules, (written rule.2).settle? = some (written rule.2) := by
    cases p <;> simp [rules, asError, setting, written, Toml.Value.settle?,
      Toml.Value.settleItems?, Toml.Value.settleEntries?, Toml.dateTimeKey]
  intro e he
  obtain ⟨rule, hrule, rfl⟩ := mem_fileEntries_iff.1 he
  exact hrules rule hrule

/-- The configuration file of a preset. -/
def file (p : Preset) : ConfigFile where
  rules := ⟨p.fileEntries, p.nodup_fileEntries⟩

/-- **A rendered preset is read as its file.** -/
theorem parse?_render (p : Preset) : ConfigFile.parse? p.render = some p.file := by
  have hdocument : Toml.parse? p.render = some [("rules", .table p.fileEntries)] :=
    Toml.parse?_sectionText toList_header isIdle_headerLines p.nodup_fileEntries
      p.writable_fileEntries
  have hplugins : ConfigFile.tableOf? [("rules", .table p.fileEntries)] "plugins" = some [] := rfl
  have hrules : ConfigFile.tableOf? [("rules", .table p.fileEntries)] "rules"
      = some p.fileEntries := rfl
  have hsettle : (p.fileEntries.mapM fun e => e.2.settle?.map (e.1, ·)) = some p.fileEntries := by
    rw [mapM_eq_some_iff, List.forall₂_same]
    intro e he
    rw [p.settle?_fileEntries e he]
    rfl
  have hfile : OrderedMap.ofList p.fileEntries = p.file.rules :=
    OrderedMap.ofList_entries p.file.rules
  simp only [ConfigFile.parse?, hdocument, hplugins, hrules, hsettle, hfile, Option.bind_eq_bind,
    Option.bind_some, List.mapM_nil, Option.pure_def]
  rfl

/-! ## Loading -/

/-- Every entry begins with one of two names. -/
lemma head?_rules (p : Preset) : ∀ rule ∈ p.rules,
    rule.2.head? = some (.string Severity.warn.name)
      ∨ rule.2.head? = some (.string Severity.error.name) := by
  cases p <;> simp [rules, asError, Severity.name]

/-- The severity of every entry is written by name, and it is not off. -/
lemma exists_severity_of_mem_rules {p : Preset} {rule : String × List Toml.Value}
    (h : rule ∈ p.rules) :
    ∃ (severity : Severity) (options : List Toml.Value), severity ≠ .off
      ∧ rule.2 = .string severity.name :: options := by
  rcases p.head?_rules rule h with hwarn | herror
  · obtain ⟨options, hoptions⟩ := List.head?_eq_some_iff.1 hwarn
    exact ⟨.warn, options, by decide, hoptions⟩
  · obtain ⟨options, hoptions⟩ := List.head?_eq_some_iff.1 herror
    exact ⟨.error, options, by decide, hoptions⟩

/-- A written entry stands for the severity and the options of the rule. -/
lemma standsFor_written (severity : Severity) (options : List Toml.Value) :
    ConfigFile.StandsFor (written (.string severity.name :: options)).toJson severity
      (options.map Toml.Value.toJson) := by
  have hhead : Severity.ofJson? (.str severity.name) = some severity := by
    cases severity <;> decide +kernel
  cases options with
  | nil =>
      refine ConfigFile.StandsFor.alone (fun items => ?_) hhead
      simp [written, Toml.Value.toJson]
  | cons option rest =>
      rw [← Toml.Value.itemsToJson_eq_map]
      exact ConfigFile.StandsFor.headed hhead

lemma bare_rules (p : Preset) : ∀ rule ∈ p.rules, rule.1 ≠ "" ∧ '/' ∉ rule.1.toList := by
  cases p <;> simp [rules, asError]

/-- Every rule of a preset is a built-in one, with options that it accepts. -/
lemma plainlyAccepts_rules (p : Preset) : ∀ rule ∈ p.rules,
    (builtin.rules.get? rule.1).any
      (fun form => form.plainlyAccepts (rule.2.tail.map Toml.Value.toJson)) = true := by
  cases p <;> decide +kernel

/-- **Every entry turns a built-in rule on**, with options that it accepts. -/
lemma accepted_rules {p : Preset} {rule : String × List Toml.Value} (h : rule ∈ p.rules) :
    ∃ (severity : Severity) (options : List Json), severity ≠ .off
      ∧ ConfigFile.StandsFor (written rule.2).toJson severity options
      ∧ ∀ (registry : Registry) (first : Nat), registry.get? "@" = some (builtin.number first) →
          Accepted .draft04 (some registry) rule.1 (severity.toJson :: options) := by
  obtain ⟨severity, options, hon, hentry⟩ := exists_severity_of_mem_rules h
  obtain ⟨form, hform, haccepts⟩ := (Option.any_eq_true _ _).1 (p.plainlyAccepts_rules rule h)
  obtain ⟨hid, hbare⟩ := p.bare_rules rule h
  rw [hentry] at haccepts ⊢
  exact ⟨severity, options.map Toml.Value.toJson, hon, standsFor_written severity options,
    fun registry first hregistry =>
      accepted_of_builtin hregistry hform hid hbare haccepts severity.toJson⟩

/-- **The file of a preset loads**, whatever files there are, with an entry for every rule, and each
of them is accepted and not off. -/
theorem load_file (p : Preset) (view : FileView) (base : Path) (next : Nat) :
    ∃ config, p.file.load view base (builtin.number 0) next = .ok config
      ∧ config.rules.size = p.rules.length
      ∧ ∀ e ∈ config.rules.entries, ∃ (severity : Severity) (options : List Json),
          severity ≠ .off ∧ e.2 = severity.toJson :: options
            ∧ Accepted .draft04 config.plugins e.1 e.2 := by
  have hplugins : ConfigFile.PluginsLoad view base p.file.plugins.entries :=
    ⟨fun e he => absurd he List.not_mem_nil, fun path listed hlisted => nomatch hlisted⟩
  have hrules : ∃ rules, p.file.ruleEntries = .ok rules := by
    refine ConfigFile.exists_ruleEntries_iff.2 fun e he => ?_
    obtain ⟨rule, hrule, rfl⟩ := mem_fileEntries_iff.1 he
    obtain ⟨severity, options, -, hstands, -⟩ := accepted_rules hrule
    exact ⟨_, ConfigFile.normalize_eq_ok_iff.2 ⟨severity, options, hstands, rfl⟩⟩
  obtain ⟨config, hload⟩ := ConfigFile.exists_load_iff.2 ⟨hplugins, hrules⟩
  obtain ⟨loaded, registry, next', hregistry, hregistered, hentries⟩ :=
    ConfigFile.exists_registered_of_load hload
  have hnormalizes := ConfigFile.ruleEntries_eq_ok_iff.1 hentries
  refine ⟨config, hload, ?_, fun e he => ?_⟩
  · rw [← length_fileEntries]
    exact hnormalizes.length_eq.symm
  obtain ⟨w, hw, hid, hnormal⟩ := ConfigFile.exists_mem_of_forall₂ hnormalizes he
  obtain ⟨rule, hrule, rfl⟩ := mem_fileEntries_iff.1 hw
  obtain ⟨severity, options, hon, hstands, haccepted⟩ := accepted_rules hrule
  have hentry : e.2 = severity.toJson :: options := by
    have hagain : ConfigFile.normalize rule.1 (written rule.2).toJson
        = .ok (severity.toJson :: options) :=
      ConfigFile.normalize_eq_ok_iff.2 ⟨severity, options, hstands, rfl⟩
    exact Except.ok.inj (hnormal.symm.trans hagain)
  refine ⟨severity, options, hon, hentry, ?_⟩
  rw [hregistry, hid, hentry]
  exact haccepted registry 0 hregistered.registers.builtin

end Preset

end LintConfig
