import Mathlib
import LintConfig.Proofs.ConfigFile.Entries

/-!
# From written to normalized entries

`Says` is what an entry of a file says as it is written: a severity, and options as TOML values.

**Normalizing** puts the level of that severity in front of the images of the options
(`normalize_toJson_eq_ok_iff`).  It fails on everything else, with what `Objection` says
(`normalize_toJson_eq_error_iff`).

**Again.**  A normalized entry is its own normal form (`normalize_normal`).  So a file that spells
the entries of another one in this form has the same entries: `ruleEntries_of_spells`.

**All entries.**  `ruleEntries_outcome` puts this together for every file.
-/

namespace LintConfig

namespace ConfigFile

/-! ## What entries say -/

/-- What an entry says as it is written: a severity alone, or an array of a severity and
options. -/
inductive Says : Toml.Value → Severity → List Toml.Value → Prop where
  | alone {v : Toml.Value} {severity : Severity} :
      Severity.ofJson? v.toJson = some severity → Says v severity []
  | headed {head : Toml.Value} {severity : Severity} {options : List Toml.Value} :
      Severity.ofJson? head.toJson = some severity →
      Says (.array (head :: options)) severity options

/-- What is wrong with an entry that says nothing: it is an empty array, or the severity in it is
none. -/
inductive Objection (id : String) : Toml.Value → ConfigError → Prop where
  | empty : Objection id (.array []) (.missingSeverity id)
  | head {head : Toml.Value} {options : List Toml.Value} :
      Severity.ofJson? head.toJson = none →
      Objection id (.array (head :: options)) (.invalidSeverity id head.toJson)
  | alone {v : Toml.Value} :
      (∀ items, v ≠ .array items) → Severity.ofJson? v.toJson = none →
      Objection id v (.invalidSeverity id v.toJson)

section Entry

variable {id : String} {v : Toml.Value} {severity : Severity} {entry : RuleEntry}

lemma toJson_array (items : List Toml.Value) :
    (Toml.Value.array items).toJson = .arr (items.map Toml.Value.toJson) := by
  rw [Toml.Value.toJson, Toml.Value.itemsToJson_eq_map]

/-- Nothing but an array has an array as its image. -/
lemma exists_array_of_toJson {values : List Json} (h : v.toJson = .arr values) :
    ∃ items, v = .array items ∧ items.map Toml.Value.toJson = values := by
  cases v with
  | array items =>
      rw [toJson_array] at h
      exact ⟨items, rfl, Json.arr.inj h⟩
  | float d => cases d <;> exact nomatch h
  | string _ | integer _ | boolean _ | dateTime _ | table _ => exact nomatch h

lemma toJson_ne_arr (h : ∀ items, v ≠ .array items) : ∀ values, v.toJson ≠ .arr values := by
  intro values heq
  obtain ⟨items, hv, -⟩ := exists_array_of_toJson heq
  exact h items hv

/-- **What an entry says is what its image stands for.** -/
lemma standsFor_toJson_iff {values : List Json} :
    StandsFor v.toJson severity values
      ↔ ∃ options, Says v severity options ∧ values = options.map Toml.Value.toJson := by
  constructor
  · intro h
    generalize himage : v.toJson = image at h
    cases h with
    | alone _ hv =>
        subst himage
        exact ⟨[], Says.alone hv, rfl⟩
    | headed hhead =>
        obtain ⟨items, rfl, hitems⟩ := exists_array_of_toJson himage
        obtain ⟨head, options, rfl, rfl, rfl⟩ := List.map_eq_cons_iff.1 hitems
        exact ⟨options, Says.headed hhead, rfl⟩
  · rintro ⟨options, h, rfl⟩
    cases h with
    | alone hv =>
        refine StandsFor.alone (fun items heq => ?_) hv
        rw [heq] at hv
        exact nomatch hv
    | headed hhead =>
        rw [toJson_array]
        exact StandsFor.headed hhead

/-- **Normalizing a written entry** changes nothing but the severity. -/
lemma normalize_toJson_eq_ok_iff :
    normalize id v.toJson = .ok entry
      ↔ ∃ severity options, Says v severity options
          ∧ entry = severity.toJson :: options.map Toml.Value.toJson := by
  rw [normalize_eq_ok_iff]
  constructor
  · rintro ⟨severity, values, hstands, rfl⟩
    obtain ⟨options, hsays, rfl⟩ := standsFor_toJson_iff.1 hstands
    exact ⟨severity, options, hsays, rfl⟩
  · rintro ⟨severity, options, hsays, rfl⟩
    exact ⟨severity, _, standsFor_toJson_iff.2 ⟨options, hsays, rfl⟩, rfl⟩

lemma exists_normalize_toJson_iff :
    (∃ entry, normalize id v.toJson = .ok entry) ↔ ∃ severity options, Says v severity options := by
  simp only [normalize_toJson_eq_ok_iff]
  constructor
  · rintro ⟨_, severity, options, hsays, -⟩
    exact ⟨severity, options, hsays⟩
  · rintro ⟨severity, options, hsays⟩
    exact ⟨_, severity, options, hsays, rfl⟩

/-- **A written entry that cannot be normalized** is objected to. -/
lemma normalize_toJson_eq_error_iff {error : ConfigError} :
    normalize id v.toJson = .error error ↔ Objection id v error := by
  constructor
  · intro h
    by_cases harray : ∃ items, v = .array items
    · obtain ⟨items, rfl⟩ := harray
      rw [toJson_array] at h
      cases items with
      | nil =>
          obtain rfl := Except.error.inj h
          exact Objection.empty
      | cons head options =>
          obtain ⟨hhead, rfl⟩ := withSeverity_eq_error_iff.1 h
          exact Objection.head hhead
    · have hnot : ∀ items, v ≠ .array items := fun items heq => harray ⟨items, heq⟩
      rw [normalize_eq_withSeverity (toJson_ne_arr hnot)] at h
      obtain ⟨hv, rfl⟩ := withSeverity_eq_error_iff.1 h
      exact Objection.alone hnot hv
  · intro h
    cases h with
    | empty => rfl
    | head hhead =>
        rw [toJson_array]
        exact withSeverity_eq_error_iff.2 ⟨hhead, rfl⟩
    | alone hnot hv =>
        rw [normalize_eq_withSeverity (toJson_ne_arr hnot)]
        exact withSeverity_eq_error_iff.2 ⟨hv, rfl⟩

/-- A normalized entry is its own normal form. -/
lemma normalize_normal (id : String) (severity : Severity) (options : List Json) :
    normalize id (.arr (severity.toJson :: options)) = .ok (severity.toJson :: options) :=
  normalize_eq_ok_iff.2
    ⟨severity, options, StandsFor.headed (Severity.ofNumber?_level severity), rfl⟩

end Entry

/-! ## All entries -/

/-- A file whose entries are written as some normalized ones. -/
def Spells (file : ConfigFile) (rules : OrderedMap String RuleEntry) : Prop :=
  List.Forall₂ (fun written loaded => written.1 = loaded.1 ∧ written.2.toJson = .arr loaded.2)
    file.rules.entries rules.entries

section Entries

variable {file : ConfigFile} {rules : OrderedMap String RuleEntry}

/-- Two lists that are related item by item are so by every relation that holds between their
related items. -/
lemma forall₂_imp_of_mem {α β : Type} {R S : α → β → Prop} {l : List α} {l' : List β}
    (h : List.Forall₂ R l l') (himp : ∀ a ∈ l, ∀ b ∈ l', R a b → S a b) : List.Forall₂ S l l' := by
  induction h with
  | nil => exact List.Forall₂.nil
  | cons hfirst _ ih =>
      refine List.Forall₂.cons (himp _ List.mem_cons_self _ List.mem_cons_self hfirst) (ih ?_)
      exact fun a ha b hb => himp a (List.mem_cons_of_mem _ ha) b (List.mem_cons_of_mem _ hb)

lemma normalize_loaded (h : file.ruleEntries = .ok rules) {e : String × RuleEntry}
    (he : e ∈ rules.entries) (id : String) : normalize id (.arr e.2) = .ok e.2 := by
  obtain ⟨severity, options, heq⟩ := exists_severity_of_forall₂ (ruleEntries_eq_ok_iff.1 h) he
  rw [heq]
  exact normalize_normal id severity options

/-- **Normalizing again changes nothing.** -/
lemma ruleEntries_of_spells (h : file.ruleEntries = .ok rules) {again : ConfigFile}
    (hspells : again.Spells rules) : again.ruleEntries = .ok rules := by
  refine ruleEntries_eq_ok_iff.2 (forall₂_imp_of_mem hspells ?_)
  rintro written - loaded hloaded ⟨hid, himage⟩
  refine ⟨hid.symm, ?_⟩
  rw [himage]
  exact normalize_loaded h hloaded written.1

/-- What becomes of a written entry, and that its severity can be told. -/
lemma forall₂_says (h : file.ruleEntries = .ok rules) (plugins : Option Registry) :
    List.Forall₂ (fun written loaded => ∃ severity options, Says written.2 severity options
        ∧ loaded = (written.1, severity.toJson :: options.map Toml.Value.toJson)
        ∧ Configuration.severity? { rules, plugins } loaded.1 = some severity)
      file.rules.entries rules.entries := by
  refine forall₂_imp_of_mem (ruleEntries_eq_ok_iff.1 h) ?_
  rintro written - loaded hloaded ⟨hid, hnormal⟩
  obtain ⟨severity, options, hsays, hentry⟩ := normalize_toJson_eq_ok_iff.1 hnormal
  have hmem : loaded ∈ ({ rules, plugins } : Configuration).rules.entries := hloaded
  exact ⟨severity, options, hsays, Prod.ext hid hentry, severity?_of_mem hmem hentry⟩

/-- The first entry that cannot be normalized is the first one that is objected to. -/
lemma firstEntryFault_iff {written : List (String × Toml.Value)} {error : ConfigError} :
    FirstEntryFault written error
      ↔ ∃ before id v later, written = before ++ (id, v) :: later
          ∧ (∀ e ∈ before, ∃ severity options, Says e.2 severity options)
          ∧ Objection id v error := by
  simp only [FirstEntryFault, exists_normalize_toJson_iff, normalize_toJson_eq_error_iff,
    Prod.exists]

end Entries

/-- **The rule entries of a file are normalized one by one, and only their severities change.**

* All of them can be normalized exactly if each says a severity, alone or in front of options.
* Then the identifiers stay and keep their order, each with the level of its severity and the images
  of its options, so that the severity of every rule can be told, and normalizing once more gives
  the same entries.
* Otherwise the error is that of the first entry in the file that says nothing: an empty array lacks
  a severity, and any other entry is reported with the text of what stands in its place. -/
theorem ruleEntries_outcome (file : ConfigFile) :
    ((∃ rules, file.ruleEntries = .ok rules)
        ↔ ∀ e ∈ file.rules.entries, ∃ severity options, Says e.2 severity options)
      ∧ (∀ rules, file.ruleEntries = .ok rules →
          rules.keys = file.rules.keys
            ∧ (∀ plugins, List.Forall₂ (fun written loaded => ∃ severity options,
                Says written.2 severity options
                  ∧ loaded = (written.1,
                      .num (.integer severity.level) :: options.map Toml.Value.toJson)
                  ∧ Configuration.severity? { rules, plugins } loaded.1 = some severity)
                file.rules.entries rules.entries)
            ∧ (∀ e ∈ rules.entries, ∀ id, normalize id (.arr e.2) = .ok e.2)
            ∧ ∀ again : ConfigFile, again.Spells rules → again.ruleEntries = .ok rules)
      ∧ (∀ error, file.ruleEntries = .error error
          ↔ ∃ before id v later, file.rules.entries = before ++ (id, v) :: later
              ∧ (∀ e ∈ before, ∃ severity options, Says e.2 severity options)
              ∧ Objection id v error)
      ∧ ∀ id head, (ConfigError.invalidSeverity id head).message?
          = some ("Key \"rules\": Key \"" ++ id
            ++ "\": expected severity \"off\", \"warn\", \"error\", " ++ "0, 1 or 2 but got "
            ++ head.text) := by
  refine ⟨?_, fun rules h => ⟨?_, forall₂_says h, fun e he id => normalize_loaded h he id,
    fun again hspells => ruleEntries_of_spells h hspells⟩, fun error => ?_, fun id head => ?_⟩
  · rw [exists_ruleEntries_iff]
    exact forall₂_congr fun e _ => exists_normalize_toJson_iff
  · exact map_fst_of_forall₂ (ruleEntries_eq_ok_iff.1 h)
  · rw [ruleEntries_eq_error_iff, firstEntryFault_iff]
  · rfl

/-- The double 2. -/
def two : Double := ⟨false, 0x10000000000000, -51, by decide⟩

/-- A file with a severity by name, and one by number in front of a float that is not finite and a
date. -/
def mixedFile : ConfigFile where
  rules := ⟨[("a", .string "WARN"),
    ("b", .array [.float (some two), .float none, .dateTime (.date ⟨1979, 5, 27⟩)])], by decide⟩

/-- Its normalized entries. -/
def mixedRules : OrderedMap String RuleEntry :=
  ⟨[("a", [.num (.integer 1)]),
    ("b", [.num (.integer 2), .null, .obj [(Toml.dateTimeKey, .str "1979-05-27")]])], by decide⟩

/-- The file that spells them. -/
def respelledFile : ConfigFile where
  rules := ⟨[("a", .array [.integer 1]),
    ("b", .array [.integer 2, .float none, .dateTime (.date ⟨1979, 5, 27⟩)])], by decide⟩

lemma ruleEntries_mixedFile : mixedFile.ruleEntries = .ok mixedRules := by
  have hname : Severity.ofJson? (.str "WARN") = some .warn := by decide +kernel
  have hlevel : Severity.ofJson? (.num (.double two)) = some .error := by decide +kernel
  refine ruleEntries_eq_ok_iff.2 (List.Forall₂.cons ⟨rfl, ?_⟩
    (List.Forall₂.cons ⟨rfl, ?_⟩ List.Forall₂.nil))
  · exact normalize_toJson_eq_ok_iff.2 ⟨.warn, [], Says.alone hname, rfl⟩
  · exact normalize_toJson_eq_ok_iff.2 ⟨.error, _, Says.headed hlevel, rfl⟩

/-- Both spellings have the same entries, and the severity of each can be told. -/
theorem ruleEntries_outcome_mixedFile :
    mixedFile.ruleEntries = .ok mixedRules
      ∧ (∀ e ∈ mixedFile.rules.entries, ∃ severity options, Says e.2 severity options)
      ∧ (∃ severity, Configuration.severity? { rules := mixedRules } "b" = some severity)
      ∧ respelledFile.ruleEntries = .ok mixedRules := by
  obtain ⟨hexists, hok, -⟩ := ruleEntries_outcome mixedFile
  obtain ⟨-, hentries, -, hagain⟩ := hok mixedRules ruleEntries_mixedFile
  have hspells : respelledFile.Spells mixedRules :=
    List.Forall₂.cons ⟨rfl, rfl⟩ (List.Forall₂.cons ⟨rfl, rfl⟩ List.Forall₂.nil)
  refine ⟨ruleEntries_mixedFile, hexists.1 ⟨mixedRules, ruleEntries_mixedFile⟩, ?_,
    hagain respelledFile hspells⟩
  obtain _ | ⟨-, hrest⟩ := hentries none
  obtain _ | ⟨⟨severity, options, -, -, hseverity⟩, -⟩ := hrest
  exact ⟨severity, hseverity⟩

end ConfigFile

end LintConfig
