import Mathlib
import LintConfig.ConfigFile

/-!
# What rule entries stand for

`StandsFor` says which severity and which options a value stands for as the entry of a rule: the
value is a severity itself, or an array with one at its head.

**One entry.**  `normalize_eq_ok_iff`: normalizing an entry puts the level of its severity in front
of its options, and fails where there is none.

**All entries.**  `ruleEntries_eq_ok_iff`: the entries of a file are normalized one by one, each
under its own name and at its own place, if all of them can be (`exists_ruleEntries_iff`), and
otherwise the first one at fault has the word (`ruleEntries_eq_error_iff`).
-/

namespace LintConfig

lemma Toml.Value.itemsToJson_eq_map (items : List Toml.Value) :
    itemsToJson items = items.map toJson := by
  induction items with
  | nil => rfl
  | cons item items ih => rw [itemsToJson, ih, List.map_cons]

/-- The severity of an entry with a level at its head. -/
lemma severity?_of_mem {config : Configuration} {e : String × RuleEntry}
    (he : e ∈ config.rules.entries) {severity : Severity} {options : List Json}
    (heq : e.2 = severity.toJson :: options) : config.severity? e.1 = some severity := by
  have hget : config.rules.get? e.1 = some e.2 := config.rules.get?_eq_some_iff.2 he
  rw [Configuration.severity?, hget, heq]
  exact Severity.ofNumber?_level severity

namespace ConfigFile

/-- What a value stands for as the entry of a rule. -/
inductive StandsFor : Json → Severity → List Json → Prop where
  /-- A severity without options. -/
  | alone {v : Json} {severity : Severity} :
      (∀ items, v ≠ .arr items) → Severity.ofJson? v = some severity → StandsFor v severity []
  /-- A severity at the head of an array, and options behind it. -/
  | headed {head : Json} {severity : Severity} {options : List Json} :
      Severity.ofJson? head = some severity → StandsFor (.arr (head :: options)) severity options

/-! ## One entry -/

section Entry

variable {id : String} {v head : Json} {options : List Json} {entry : RuleEntry}

lemma withSeverity_eq_ok_iff :
    withSeverity id head options = .ok entry
      ↔ ∃ severity, Severity.ofJson? head = some severity ∧ entry = severity.toJson :: options := by
  rw [withSeverity]
  cases Severity.ofJson? head with
  | none => simp
  | some severity => simp [eq_comm]

lemma withSeverity_eq_error_iff {error : ConfigError} :
    withSeverity id head options = .error error
      ↔ Severity.ofJson? head = none ∧ error = .invalidSeverity id head := by
  rw [withSeverity]
  cases Severity.ofJson? head with
  | none => simp [eq_comm]
  | some severity => simp

lemma normalize_eq_withSeverity (h : ∀ items, v ≠ .arr items) :
    normalize id v = withSeverity id v [] := by
  match v with
  | .arr items => exact absurd rfl (h items)
  | .null | .bool _ | .num _ | .str _ | .obj _ => rfl

/-- **Normalizing an entry** gives the level of its severity and its options. -/
lemma normalize_eq_ok_iff :
    normalize id v = .ok entry
      ↔ ∃ severity options, StandsFor v severity options ∧ entry = severity.toJson :: options := by
  constructor
  · intro h
    by_cases harray : ∃ items, v = .arr items
    · obtain ⟨_ | ⟨head, options⟩, rfl⟩ := harray
      · exact nomatch h
      · obtain ⟨severity, hhead, rfl⟩ := withSeverity_eq_ok_iff.1 h
        exact ⟨severity, options, StandsFor.headed hhead, rfl⟩
    · have hnot : ∀ items, v ≠ .arr items := fun items heq => harray ⟨items, heq⟩
      rw [normalize_eq_withSeverity hnot] at h
      obtain ⟨severity, hv, rfl⟩ := withSeverity_eq_ok_iff.1 h
      exact ⟨severity, [], StandsFor.alone hnot hv, rfl⟩
  · rintro ⟨severity, options, hstands, rfl⟩
    cases hstands with
    | alone hnot hv =>
        rw [normalize_eq_withSeverity hnot]
        exact withSeverity_eq_ok_iff.2 ⟨severity, hv, rfl⟩
    | headed hhead => exact withSeverity_eq_ok_iff.2 ⟨severity, hhead, rfl⟩

end Entry

/-! ## All entries -/

/-- A loaded entry that comes from an entry as written: under the same name, and normalized. -/
def Normalizes (written : String × Toml.Value) (loaded : String × RuleEntry) : Prop :=
  loaded.1 = written.1 ∧ normalize written.1 written.2.toJson = .ok loaded.2

lemma normalizeAll_eq_ok_iff {written : List (String × Toml.Value)}
    {loaded : List (String × RuleEntry)} :
    normalizeAll written = .ok loaded ↔ List.Forall₂ Normalizes written loaded := by
  induction written generalizing loaded with
  | nil =>
      rw [normalizeAll, Except.ok.injEq, List.forall₂_nil_left_iff]
      exact eq_comm
  | cons first rest ih =>
      obtain ⟨id, v⟩ := first
      rw [normalizeAll, List.forall₂_cons_left_iff]
      cases hfirst : normalize id v.toJson with
      | error error => simp [Normalizes, hfirst]
      | ok entry =>
          cases hrest : normalizeAll rest with
          | error error =>
              have hnone : ∀ later, ¬ List.Forall₂ Normalizes rest later := by
                intro later hlater
                rw [ih.2 hlater] at hrest
                exact nomatch hrest
              simp [hnone]
          | ok entries =>
              have huniq : ∀ later, List.Forall₂ Normalizes rest later ↔ later = entries := by
                intro later
                rw [← ih, hrest, Except.ok.injEq]
                exact eq_comm
              simp only [huniq, Normalizes, hfirst, Except.ok.injEq]
              constructor
              · rintro rfl
                exact ⟨(id, entry), entries, ⟨rfl, rfl⟩, rfl, rfl⟩
              · rintro ⟨⟨id', entry'⟩, later, ⟨rfl, rfl⟩, rfl, rfl⟩
                rfl

lemma map_fst_of_forall₂ {written : List (String × Toml.Value)}
    {loaded : List (String × RuleEntry)} (h : List.Forall₂ Normalizes written loaded) :
    loaded.map Prod.fst = written.map Prod.fst := by
  induction h with
  | nil => rfl
  | cons hfirst _ ih => rw [List.map_cons, List.map_cons, hfirst.1, ih]

lemma exists_mem_of_forall₂ {written : List (String × Toml.Value)}
    {loaded : List (String × RuleEntry)} (h : List.Forall₂ Normalizes written loaded)
    {e : String × RuleEntry} (he : e ∈ loaded) : ∃ w ∈ written, Normalizes w e := by
  induction h with
  | nil => exact absurd he List.not_mem_nil
  | @cons first _ _ _ hfirst _ ih =>
      rcases List.mem_cons.1 he with rfl | hrest
      · exact ⟨first, List.mem_cons_self, hfirst⟩
      · obtain ⟨w, hw, hnormalizes⟩ := ih hrest
        exact ⟨w, List.mem_cons_of_mem first hw, hnormalizes⟩

/-- Every normalized entry is the level of a severity with options behind it. -/
lemma exists_severity_of_forall₂ {written : List (String × Toml.Value)}
    {loaded : List (String × RuleEntry)} (h : List.Forall₂ Normalizes written loaded)
    {e : String × RuleEntry} (he : e ∈ loaded) :
    ∃ (severity : Severity) (options : List Json), e.2 = severity.toJson :: options := by
  obtain ⟨w, -, hnormalizes⟩ := exists_mem_of_forall₂ h he
  obtain ⟨severity, options, -, heq⟩ := normalize_eq_ok_iff.1 hnormalizes.2
  exact ⟨severity, options, heq⟩

/-- **The entries of a file** are normalized one by one, and stay where they are. -/
lemma ruleEntries_eq_ok_iff {file : ConfigFile} {rules : OrderedMap String RuleEntry} :
    file.ruleEntries = .ok rules ↔ List.Forall₂ Normalizes file.rules.entries rules.entries := by
  rw [ruleEntries]
  constructor
  · intro h
    cases hall : normalizeAll file.rules.entries with
    | error error =>
        rw [hall] at h
        exact nomatch h
    | ok loaded =>
        have hloaded := normalizeAll_eq_ok_iff.1 hall
        -- the names are still different, so no entry takes the place of another
        have hnodup : (loaded.map Prod.fst).Nodup := by
          rw [map_fst_of_forall₂ hloaded]
          exact file.rules.nodup
        rw [hall] at h
        obtain rfl := Except.ok.inj h
        rwa [OrderedMap.entries_ofList hnodup]
  · intro h
    rw [normalizeAll_eq_ok_iff.2 h]
    exact congrArg Except.ok (OrderedMap.ofList_entries rules)

lemma exists_normalizeAll_iff {written : List (String × Toml.Value)} :
    (∃ loaded, normalizeAll written = .ok loaded)
      ↔ ∀ e ∈ written, ∃ entry, normalize e.1 e.2.toJson = .ok entry := by
  induction written with
  | nil => exact ⟨fun _ e he => absurd he List.not_mem_nil, fun _ => ⟨[], rfl⟩⟩
  | cons first rest ih =>
      rw [List.forall_mem_cons, ← ih]
      simp only [normalizeAll_eq_ok_iff, List.forall₂_cons_left_iff]
      constructor
      · rintro ⟨-, ⟨id, entry⟩, loaded, ⟨-, hfirst⟩, hrest, -⟩
        exact ⟨⟨entry, hfirst⟩, loaded, hrest⟩
      · rintro ⟨⟨entry, hfirst⟩, loaded, hrest⟩
        exact ⟨_, (first.1, entry), loaded, ⟨rfl, hfirst⟩, hrest, rfl⟩

/-- The error of the first entry that cannot be normalized. -/
def FirstEntryFault (written : List (String × Toml.Value)) (error : ConfigError) : Prop :=
  ∃ before e later, written = before ++ e :: later ∧
    (∀ e ∈ before, ∃ entry, normalize e.1 e.2.toJson = .ok entry) ∧
    normalize e.1 e.2.toJson = .error error

/-- An entry that can be normalized is not the first one at fault. -/
lemma firstEntryFault_cons_iff {first : String × Toml.Value} {rest : List (String × Toml.Value)}
    {entry : RuleEntry} {error : ConfigError}
    (hfirst : normalize first.1 first.2.toJson = .ok entry) :
    FirstEntryFault (first :: rest) error ↔ FirstEntryFault rest error := by
  constructor
  · rintro ⟨before, e, later, heq, hbefore, hfault⟩
    cases before with
    | nil =>
        obtain ⟨rfl, -⟩ := List.cons.inj heq
        exact nomatch hfirst.symm.trans hfault
    | cons e' before =>
        obtain ⟨rfl, rfl⟩ := List.cons.inj heq
        exact ⟨before, e, later, rfl, (List.forall_mem_cons.1 hbefore).2, hfault⟩
  · rintro ⟨before, e, later, rfl, hbefore, hfault⟩
    refine ⟨first :: before, e, later, rfl, ?_, hfault⟩
    exact List.forall_mem_cons.2 ⟨⟨entry, hfirst⟩, hbefore⟩

lemma normalizeAll_eq_error_iff {written : List (String × Toml.Value)} {error : ConfigError} :
    normalizeAll written = .error error ↔ FirstEntryFault written error := by
  induction written with
  | nil =>
      constructor
      · exact fun h => nomatch h
      · rintro ⟨before, e, later, heq, -⟩
        exact absurd heq (by simp)
  | cons first rest ih =>
      obtain ⟨id, v⟩ := first
      rw [normalizeAll]
      cases hfirst : normalize id v.toJson with
      | error fault =>
          constructor
          · intro h
            obtain rfl := Except.error.inj h
            exact ⟨[], (id, v), rest, rfl, fun e he => absurd he List.not_mem_nil, hfirst⟩
          · rintro ⟨before, e, later, heq, hbefore, hfault⟩
            cases before with
            | nil =>
                obtain ⟨rfl, -⟩ := List.cons.inj heq
                exact congrArg Except.error (Except.error.inj (hfirst.symm.trans hfault))
            | cons e' before =>
                obtain ⟨rfl, -⟩ := List.cons.inj heq
                obtain ⟨entry, hentry⟩ := hbefore (id, v) (by simp)
                exact nomatch hfirst.symm.trans hentry
      | ok entry =>
          rw [firstEntryFault_cons_iff hfirst, ← ih]
          cases normalizeAll rest with
          | error fault => simp
          | ok entries => simp

/-- **The error of the entries of a file** is that of the first one at fault. -/
lemma ruleEntries_eq_error_iff {file : ConfigFile} {error : ConfigError} :
    file.ruleEntries = .error error ↔ FirstEntryFault file.rules.entries error := by
  rw [← normalizeAll_eq_error_iff, ruleEntries]
  cases normalizeAll file.rules.entries with
  | error fault => simp [Except.map]
  | ok loaded => simp [Except.map]

lemma exists_ruleEntries_iff {file : ConfigFile} :
    (∃ rules, file.ruleEntries = .ok rules)
      ↔ ∀ e ∈ file.rules.entries, ∃ entry, normalize e.1 e.2.toJson = .ok entry := by
  rw [← exists_normalizeAll_iff, ruleEntries]
  cases normalizeAll file.rules.entries with
  | error error => simp [Except.map]
  | ok loaded => simp [Except.map]

end ConfigFile

end LintConfig
