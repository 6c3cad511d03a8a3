import Mathlib
import LintConfig.Command.Run
import LintConfig.Proofs.Command.Source

/-!
# What a command depends on

A command line that loads a configuration looks for one file, reads it, and reads the manifests
that it names.  Nothing else in the tree has a part in how it ends.

**Selection.**  `Invocation.Selects` says which source is taken without a search: the named file in
any case, otherwise the first of the sources that are sought whose file is a regular one.
`selects_iff` is that the search takes it.

**Two trees.**  `Invocation.Agree` collects what two views have to share, which is what a run looks
at in the first of them.  Then the search takes the same source (`select_congr`), the source loads
the same configuration (`load_congr`), and the command ends in the same way
(**`runCommandLine_congr`**).  A selected file that does not load is a failure that names it, so no
other candidate ever stands in.
-/

namespace LintConfig

namespace Invocation

/-- The sources that have a file, the first one preferred: the named file alone if one is named. -/
def sought (invocation : Invocation) : List ConfigSource :=
  match invocation.config with
  | some p => [.explicit p]
  | none =>
    [.project (invocation.project.join ⟨"flatlint.toml"⟩),
      .project (invocation.project.join ⟨".flatlint.toml"⟩)]
      ++ (invocation.globalDir.map fun dir => .global (dir.join ⟨"config.toml"⟩)).toList

/-- The source with a file that a command works on.  A named file need not be there. -/
def Selects (view : FileView) (invocation : Invocation) (source : ConfigSource) : Prop :=
  ∃ before after, invocation.sought = before ++ source :: after
    ∧ (∀ earlier ∈ before, earlier.isPresent view = false)
    ∧ (invocation.config = none → source.isPresent view = true)

/-- Two views show a command the same: which of the sources up to the selected one are regular
files, what is in the selected file, and what is in the manifests that it names. -/
structure Agree (view view' : FileView) (invocation : Invocation) : Prop where
  present : invocation.config = none → ∀ before source after,
    invocation.sought = before ++ source :: after →
    (∀ earlier ∈ before, earlier.isPresent view = false) →
    source.isPresent view = source.isPresent view'
  file : ∀ source path, invocation.Selects view source → source.path? = some path →
    view.read? path = view'.read? path
  manifests : ∀ source file, invocation.Selects view source → source.Holds view file →
    ∀ manifest ∈ file.plugins.values,
      view.read? (source.manifestDir.join manifest) = view'.read? (source.manifestDir.join manifest)

end Invocation

/-! ## Selection -/

section Selection

variable {view view' : FileView} {invocation : Invocation} {source : ConfigSource}

lemma exists_path?_of_sought (h : source ∈ invocation.sought) :
    ∃ path, source.path? = some path := by
  have hnot : ∀ project, .builtinOnly project ∉ invocation.sought := by
    intro project
    cases hconfig : invocation.config with
    | some named => simp [Invocation.sought, hconfig]
    | none => cases hdir : invocation.globalDir <;> simp [Invocation.sought, hconfig, hdir]
  cases source with
  | explicit path | project path | global path => exact ⟨path, rfl⟩
  | builtinOnly project => exact absurd h (hnot project)

lemma candidates_eq_sought (h : invocation.config = none) :
    ConfigSource.candidates invocation = invocation.sought := by
  rw [Invocation.sought, h]
  cases hdir : invocation.globalDir with
  | none => simp [ConfigSource.candidates, ConfigSource.projectNames, hdir]
  | some dir =>
      simp [ConfigSource.candidates, ConfigSource.projectNames, ConfigSource.globalName, hdir]

lemma select_of_config {path : Path} (h : invocation.config = some path) :
    ConfigSource.select view invocation = .explicit path := by
  simp [ConfigSource.select, h]

lemma select_of_none (h : invocation.config = none) :
    ConfigSource.select view invocation
      = (invocation.sought.find? (ConfigSource.isPresent view)).getD
          (.builtinOnly invocation.project) := by
  simp [ConfigSource.select, h, candidates_eq_sought h]

/-- **The search takes the selected source**, and without one the built-in rules. -/
theorem selects_iff :
    invocation.Selects view source
      ↔ ConfigSource.select view invocation = source ∧ ∃ path, source.path? = some path := by
  cases hconfig : invocation.config with
  | some named =>
      have hsought : invocation.sought = [.explicit named] := by
        rw [Invocation.sought, hconfig]
      rw [select_of_config hconfig, Invocation.Selects, hsought]
      constructor
      · rintro ⟨before, after, heq, -, -⟩
        -- a list of one element leaves no room in front
        obtain ⟨rfl, rfl, rfl⟩ : before = [] ∧ source = .explicit named ∧ after = [] := by
          cases before with
          | nil =>
              obtain ⟨hsource, hafter⟩ := List.cons.inj heq
              exact ⟨rfl, hsource.symm, hafter.symm⟩
          | cons first rest => simp at heq
        exact ⟨rfl, named, rfl⟩
      · rintro ⟨rfl, -⟩
        exact ⟨[], [], rfl, by simp, by simp [hconfig]⟩
  | none =>
      rw [select_of_none hconfig]
      constructor
      · rintro ⟨before, after, heq, hbefore, hpresent⟩
        have hfound : invocation.sought.find? (ConfigSource.isPresent view) = some source := by
          rw [List.find?_eq_some_iff_append]
          exact ⟨hpresent hconfig, before, after, heq, by simpa using hbefore⟩
        have hmem : source ∈ invocation.sought := by simp [heq]
        exact ⟨by rw [hfound]; rfl, exists_path?_of_sought hmem⟩
      · rintro ⟨hselect, path, hpath⟩
        cases hfound : invocation.sought.find? (ConfigSource.isPresent view) with
        | none =>
            rw [hfound] at hselect
            obtain rfl := hselect
            simp [ConfigSource.path?] at hpath
        | some found =>
            rw [hfound] at hselect
            obtain rfl := hselect
            obtain ⟨hpresent, before, after, heq, hbefore⟩ := List.find?_eq_some_iff_append.1 hfound
            exact ⟨before, after, heq, by simpa using hbefore, fun _ => hpresent⟩

/-- A search only asks up to where it finds something. -/
lemma find?_congr_of_agree {α : Type} {p q : α → Bool} {l : List α}
    (h : ∀ before a after, l = before ++ a :: after → (∀ b ∈ before, p b = false) → p a = q a) :
    l.find? p = l.find? q := by
  induction l with
  | nil => rfl
  | cons a rest ih =>
      have hhead : p a = q a := h [] a rest rfl (by simp)
      cases hp : p a with
      | true => rw [List.find?_cons_of_pos hp, List.find?_cons_of_pos (hhead ▸ hp)]
      | false =>
          have hq : ¬ q a = true := by simp [← hhead, hp]
          rw [List.find?_cons_of_neg (by simp [hp]), List.find?_cons_of_neg hq]
          refine ih fun before b after heq hbefore => ?_
          refine h (a :: before) b after (by rw [heq]; rfl) ?_
          intro c hc
          rcases List.mem_cons.1 hc with rfl | hc
          · exact hp
          · exact hbefore c hc

lemma select_congr (h : invocation.Agree view view') :
    ConfigSource.select view invocation = ConfigSource.select view' invocation := by
  cases hconfig : invocation.config with
  | some named => rw [select_of_config hconfig, select_of_config hconfig]
  | none =>
      rw [select_of_none hconfig, select_of_none hconfig]
      rw [find?_congr_of_agree (h.present hconfig)]

end Selection

/-! ## Loading -/

section Loading

variable {view view' : FileView} {source : ConfigSource}

/-- Registering plugins reads their manifests and nothing else. -/
lemma registerAll_congr {base : Path} {entries : List (String × Path)}
    (h : ∀ e ∈ entries, view.read? (base.join e.2) = view'.read? (base.join e.2))
    (loaded : List (Path × Plugin)) (registry : Registry) (next : Nat) :
    ConfigFile.registerAll view base entries loaded registry next
      = ConfigFile.registerAll view' base entries loaded registry next := by
  induction entries generalizing loaded registry next with
  | nil => rfl
  | cons e rest ih =>
      obtain ⟨name, manifest⟩ := e
      rw [List.forall_mem_cons] at h
      have hread : ConfigFile.readManifest view (base.join manifest)
          = ConfigFile.readManifest view' (base.join manifest) := by
        rw [ConfigFile.readManifest, ConfigFile.readManifest, h.1]
      simp only [ConfigFile.registerAll, hread, ih h.2]

lemma read_congr (h : ∀ path, source.path? = some path → view.read? path = view'.read? path) :
    source.read view = source.read view' := by
  unfold ConfigSource.read
  cases hpath : source.path? with
  | none => rfl
  | some path => simp only [ConfigFile.read, h path hpath]

lemma load_congr (hfile : ∀ path, source.path? = some path → view.read? path = view'.read? path)
    (hmanifests : ∀ file, source.Holds view file → ∀ manifest ∈ file.plugins.values,
      view.read? (source.manifestDir.join manifest)
        = view'.read? (source.manifestDir.join manifest)) :
    source.load view = source.load view' := by
  rw [ConfigSource.load, ConfigSource.load, ← read_congr hfile]
  cases hread : source.read view with
  | error cause => rfl
  | ok file =>
      have hentries : ∀ e ∈ file.plugins.entries,
          view.read? (source.manifestDir.join e.2) = view'.read? (source.manifestDir.join e.2) := by
        intro e he
        refine hmanifests file (ConfigSource.read_eq_ok_iff.1 hread) e.2 ?_
        exact List.mem_map_of_mem (f := Prod.snd) he
      simp only [ConfigFile.load, registerAll_congr hentries]

/-- Without a configuration file nothing is read. -/
lemma load_congr_of_none (h : source.path? = none) : source.load view = source.load view' := by
  refine load_congr (by simp [h]) ?_
  rintro file (⟨hsome, -, -⟩ | _)
  · exact nomatch h.symm.trans hsome
  · intro manifest hmanifest
    exact absurd hmanifest List.not_mem_nil

/-- A source that does not load is reported under its own name: its file cannot be read, or
something in the file cannot be used. -/
lemma message_of_load_error {failure : LoadFailure} :
    source.load view = .error failure →
      ((¬ ∃ file, source.Holds view file) →
          failure.message = "Failed to load config: " ++ source.label)
        ∧ ((∃ file, source.Holds view file) →
          failure.message = "Failed to load plugins for " ++ source.label) := by
  simp only [← ConfigSource.read_eq_ok_iff]
  rw [ConfigSource.load]
  cases source.read view with
  | error cause =>
      intro h
      rw [← Except.error.inj h]
      refine ⟨fun _ => rfl, ?_⟩
      rintro ⟨file, hfile⟩
      cases hfile
  | ok file =>
      simp only [PluginDeclaration.build]
      cases file.load view source.manifestDir (builtin.number 0) (0 + 1 + builtin.rules.size) with
      | error cause =>
          intro h
          rw [← Except.error.inj h]
          exact ⟨fun hnone => absurd ⟨file, rfl⟩ hnone, fun _ => rfl⟩
      | ok config =>
          intro h
          cases h

end Loading

/-! ## Commands -/

section Commands

variable (engine : SchemaEngine) {view view' : FileView} {invocation : Invocation}

/-- The commands that load a configuration do nothing but that with the tree. -/
lemma exists_run_eq (h : ∀ force preset, invocation.command ≠ .init force preset) :
    ∃ run : ConfigSource → Configuration → Outcome, ∀ view,
      invocation.run engine view
        = Command.withConfiguration view (ConfigSource.select view invocation)
            (run (ConfigSource.select view invocation)) := by
  cases hcommand : invocation.command with
  | check format =>
      exact ⟨fun source config => Command.runCheck engine source config format, fun view => by
        simp only [Invocation.run, hcommand]⟩
  | resolve id =>
      exact ⟨fun _ config => Command.runResolve config id, fun view => by
        simp only [Invocation.run, hcommand]⟩
  | schema id =>
      exact ⟨fun _ config => Command.runSchema config id, fun view => by
        simp only [Invocation.run, hcommand]⟩
  | listRules =>
      exact ⟨fun _ config => Command.runListRules config, fun view => by
        simp only [Invocation.run, hcommand]⟩
  | init force preset => exact absurd hcommand (h force preset)

lemma load_select_congr (h : invocation.Agree view view') :
    (ConfigSource.select view invocation).load view
      = (ConfigSource.select view invocation).load view' := by
  cases hpath : (ConfigSource.select view invocation).path? with
  | none => exact load_congr_of_none hpath
  | some path =>
      have hselects : invocation.Selects view (ConfigSource.select view invocation) :=
        selects_iff.2 ⟨rfl, path, hpath⟩
      exact load_congr (fun path => h.file _ path hselects)
        (fun file => h.manifests _ file hselects)

/-- On views that agree a command ends in the same way, and writes nothing on either. -/
lemma run_congr (hcommand : ∀ force preset, invocation.command ≠ .init force preset)
    (h : invocation.Agree view view') :
    ∃ outcome, invocation.run engine view = .finish outcome
      ∧ invocation.run engine view' = .finish outcome := by
  obtain ⟨run, hrun⟩ := exists_run_eq engine hcommand
  rw [hrun, hrun, ← select_congr h, Command.withConfiguration, Command.withConfiguration,
    ← load_select_congr h]
  cases (ConfigSource.select view invocation).load view with
  | error failure => exact ⟨_, rfl, rfl⟩
  | ok config => exact ⟨_, rfl, rfl⟩

/-- A source that does not load ends the command with the message of the failure. -/
lemma run_of_not_loads (hcommand : ∀ force preset, invocation.command ≠ .init force preset)
    (h : ¬ (ConfigSource.select view invocation).Loads view) :
    ∃ failure, (ConfigSource.select view invocation).load view = .error failure
      ∧ invocation.run engine view = .finish (.failed failure.message) := by
  obtain ⟨run, hrun⟩ := exists_run_eq engine hcommand
  rw [← ConfigSource.exists_load_iff] at h
  rw [hrun, Command.withConfiguration]
  cases hload : (ConfigSource.select view invocation).load view with
  | ok config => exact absurd ⟨config, hload⟩ h
  | error failure => exact ⟨failure, rfl, rfl⟩

end Commands

/-- **A command depends on the file it selects and on the manifests that this file names**, and on
nothing else in the tree.

* Two trees that agree on them end every command line that loads a configuration in the same way,
  whatever engine options are checked with.
* The file that is selected is the named one, or the first of those that are sought which is a
  regular file.  If it cannot be read or parsed, or if anything that it configures cannot be loaded,
  the command fails with an error line about that very file. -/
theorem runCommandLine_congr (engine : SchemaEngine) (t t' : FileTree) (env : Environment)
    (arguments : List String) (invocation : Invocation)
    (hparse : Invocation.parse? env arguments = some invocation)
    (hcommand : ∀ force preset, invocation.command ≠ .init force preset)
    (hagree : invocation.Agree t.view t'.view) :
    (runCommandLineWith engine t' env arguments).1 = (runCommandLineWith engine t env arguments).1
      ∧ ∀ source, invocation.Selects t.view source →
        ((¬ ∃ file, source.Holds t.view file) →
            (runCommandLineWith engine t env arguments).1
              = { code := 1, stdout := ""
                  stderr := "Error: " ++ ("Failed to load config: " ++ source.label) ++ "\n" })
          ∧ ((∃ file, source.Holds t.view file) → ¬ source.Loads t.view →
            (runCommandLineWith engine t env arguments).1
              = { code := 1, stdout := ""
                  stderr := "Error: " ++ ("Failed to load plugins for " ++ source.label)
                    ++ "\n" }) := by
  rw [runCommandLineWith, runCommandLineWith, hparse]
  refine ⟨?_, fun source hselects => ?_⟩
  · obtain ⟨outcome, hrun, hrun'⟩ := run_congr engine hcommand hagree
    simp only [hrun, hrun', FileTree.perform]
  · obtain ⟨rfl, path, hpath⟩ := selects_iff.1 hselects
    constructor
    · intro hnone
      have hnot : ¬ (ConfigSource.select t.view invocation).Loads t.view := by
        rintro ⟨file, hfile, -⟩
        exact hnone ⟨file, hfile⟩
      obtain ⟨failure, hload, hrun⟩ := run_of_not_loads engine hcommand hnot
      simp only [hrun, FileTree.perform, (message_of_load_error hload).1 hnone]
      rfl
    · intro hholds hnot
      obtain ⟨failure, hload, hrun⟩ := run_of_not_loads engine hcommand hnot
      simp only [hrun, FileTree.perform, (message_of_load_error hload).2 hholds]
      rfl

/-- A directory whose configuration file names one manifest. -/
def shelteredTree : FileTree where
  nodes := ⟨[(["flatlint.toml"], .file "[plugins]\np = \"p.json\"\n[rules]\n\"p/r\" = 2\n".toUTF8),
    (["p.json"], .file "\x7b\"rules\":\x7b\"r\":\"function\"\x7d\x7d".toUTF8)], by decide⟩

/-- The same directory with more in it: a second configuration file that is none, a user's
configuration, and a manifest under a name that is not asked for. -/
def litteredTree : FileTree where
  nodes := ⟨[(["flatlint.toml"], .file "[plugins]\np = \"p.json\"\n[rules]\n\"p/r\" = 2\n".toUTF8),
    (["p.json"], .file "\x7b\"rules\":\x7b\"r\":\"function\"\x7d\x7d".toUTF8),
    ([".flatlint.toml"], .file "[rules".toUTF8), (["home"], .directory),
    (["home", ".flatlint"], .directory),
    (["home", ".flatlint", "config.toml"], .file "[rules]\nstray = 2\n".toUTF8),
    (["p"], .file "\x7b".toUTF8)], by decide⟩

/-- An environment with a home directory. -/
def homeEnvironment : Environment := fun name => if name = "HOME" then some "home" else none

/-- Checking the two directories. -/
def homeCheck : Invocation := ⟨none, ⟨"."⟩, some ⟨"home/.flatlint"⟩, .check .json⟩

lemma select_shelteredTree :
    ConfigSource.select shelteredTree.view homeCheck = .project ⟨"./flatlint.toml"⟩ := by
  decide +kernel

lemma agree_litteredTree : homeCheck.Agree shelteredTree.view litteredTree.view where
  present := by
    intro _ before source after heq hbefore
    have hfirst : ConfigSource.isPresent shelteredTree.view (.project ⟨"./flatlint.toml"⟩)
        = true := by decide +kernel
    have hsought : homeCheck.sought = .project ⟨"./flatlint.toml"⟩
        :: [.project ⟨"./.flatlint.toml"⟩, .global ⟨"home/.flatlint/config.toml"⟩] := by
      decide +kernel
    rw [hsought] at heq
    -- the first candidate is there, so no later one is asked for
    cases before with
    | nil =>
        rw [← (List.cons.inj heq).1, hfirst]
        decide +kernel
    | cons first rest =>
        have hnone := hbefore first (by simp)
        rw [← (List.cons.inj heq).1, hfirst] at hnone
        exact nomatch hnone
  file := by
    intro source path hselects hpath
    obtain ⟨rfl, -⟩ := selects_iff.1 hselects
    rw [select_shelteredTree] at hpath
    obtain rfl := Option.some.inj hpath
    decide +kernel
  manifests := by
    intro source file hselects hholds manifest hmanifest
    obtain ⟨rfl, -⟩ := selects_iff.1 hselects
    rw [select_shelteredTree] at hholds ⊢
    have hvalues : ((ConfigSource.project ⟨"./flatlint.toml"⟩).read shelteredTree.view).toOption.map
        (fun file => file.plugins.values) = some [⟨"p.json"⟩] := by decide +kernel
    rw [ConfigSource.read_eq_ok_iff.2 hholds] at hvalues
    have hvalue : file.plugins.values = [⟨"p.json"⟩] := Option.some.inj hvalues
    rw [hvalue, List.mem_singleton] at hmanifest
    rw [hmanifest]
    decide +kernel

/-- What was added to the directory does not show: the check still accepts the one rule. -/
theorem runCommandLine_congr_litteredTree :
    Invocation.parse? homeEnvironment ["check", "-f", "json"] = some homeCheck
      ∧ homeCheck.Agree shelteredTree.view litteredTree.view
      ∧ (runCommandLine shelteredTree homeEnvironment ["check", "-f", "json"]).1.code = 0
      ∧ (runCommandLine litteredTree homeEnvironment ["check", "-f", "json"]).1
        = (runCommandLine shelteredTree homeEnvironment ["check", "-f", "json"]).1 := by
  have hparse : Invocation.parse? homeEnvironment ["check", "-f", "json"] = some homeCheck := by rfl
  have hcommand : ∀ force preset, homeCheck.command ≠ .init force preset := by
    intro force preset heq
    exact nomatch heq
  exact ⟨hparse, agree_litteredTree, by decide +kernel,
    (runCommandLine_congr .draft04 shelteredTree litteredTree homeEnvironment _ homeCheck hparse
      hcommand agree_litteredTree).1⟩

end LintConfig
