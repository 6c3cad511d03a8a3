import Mathlib
import LintConfig.Proofs.Command.Dependence
import LintConfig.Proofs.Command.Lookup
import LintConfig.Proofs.FileTree
import LintConfig.Proofs.Preset

/-!
# What a new configuration file comes to

`init` writes one file into the project directory or nothing at all, and a check that follows finds
this file, whatever else there is.

**Writing.**  `perform_runInit`: in a directory the file is written if there is none of its name,
and over a file if that is wanted; otherwise the tree is left as it was.  No other command changes
the tree (`snd_runCommandLine`).

**Checking.**  The file is the first candidate of its project, so a check that is given no other
selects it (`select_projectFile`).  It holds the file of the preset, in which all entries are
accepted and none is off, so the report counts every rule twice (`runCommandLine_of_view`).

**The outcome.**  `InitAnswers` says what becomes of a tree, and **`init_outcome`** is that for
every command line.
-/

namespace LintConfig

/-- The report on a project file without faults: how many rules are configured and enabled. -/
def CheckReport.summary (file : Path) (configured enabled : ℕ) : ReportFormat → String
  | .text => "\x1b[32mok\x1b[0m " ++ file.text ++ ": " ++ toString configured
      ++ " rule(s) configured, " ++ toString enabled ++ " enabled\n"
  | .json => (Json.obj [("config", .str file.text), ("rules", Json.ofNat configured),
      ("enabled", Json.ofNat enabled)]).pretty ++ "\n"

/-- There is nothing under the path of a file, or a file that is to be replaced. -/
def MayWrite (view : FileView) (file : Path) (force : Bool) : Prop :=
  view file = none ∨ force = true ∧ view.isFile file = true

/-- What becomes of a tree in which a project is given a new configuration file. -/
structure InitAnswers (t : FileTree) (project : Path) (force : Bool) (preset : Preset)
    (outcome : Outcome) (t' : FileTree) : Prop where
  code_eq : outcome.code = 0 ∨ outcome.code = 1
  code_zero_iff : outcome.code = 0 ↔ MayWrite t.view (Command.projectFile project) force
  /-- What is there is kept if it is not to be replaced. -/
  kept : force = false → t.view (Command.projectFile project) ≠ none → outcome.code = 1
  unchanged : outcome.code = 1 → t' = t
  /-- The file holds the rendered preset, and there is no other difference. -/
  written : outcome.code = 0 → ∃ dir, t.locate? project = some dir
    ∧ t.WrittenAt t' (dir ++ ["flatlint.toml"]) preset.render.toUTF8
    ∧ t'.view (Command.projectFile project) = some (.file (some preset.render))
  /-- A check of the project that is given no file, neither by an option nor by a variable, accepts
  every rule of the preset, whatever else there is. -/
  accepted : outcome.code = 0 → ∀ env arguments invocation format,
    Invocation.parse? env arguments = some invocation → invocation.config = none →
    invocation.project = project → invocation.command = .check format →
    runCommandLine t' env arguments
      = ({ code := 0
           stdout := CheckReport.summary (Command.projectFile project) preset.rules.length
             preset.rules.length format },
          t')

/-! ## Writing -/

section Writing

variable {t t' : FileTree} {project : Path} {dir : List String} {force : Bool} {preset : Preset}

/-- A command that loads a configuration leaves the tree as it is. -/
lemma snd_runCommandLine {env : Environment} {arguments : List String} {invocation : Invocation}
    (hparse : Invocation.parse? env arguments = some invocation)
    (hcommand : ∀ force preset, invocation.command ≠ .init force preset) :
    (runCommandLine t env arguments).2 = t := by
  obtain ⟨run, hrun⟩ := exists_run_eq .draft04 hcommand
  rw [runCommandLine, runCommandLineWith, hparse]
  simp only [hrun, Command.withConfiguration]
  cases (ConfigSource.select t.view invocation).load t.view with
  | ok config => rfl
  | error failure => rfl

lemma isEntryName_flatlint : FileTree.IsEntryName "flatlint.toml" where
  notMem := by decide
  not_stay := by decide
  not_up := by decide

lemma view_projectFile (hproject : t.locate? project = some dir)
    (hdir : t.isDirectory dir = true) :
    t.view (Command.projectFile project)
      = (t.node? (dir ++ ["flatlint.toml"])).map FileTree.entryOf :=
  FileTree.view_join isEntryName_flatlint hproject hdir

/-- What `init` asks for before it writes, and what writing needs. -/
lemma mayWrite_iff (hproject : t.locate? project = some dir) (hdir : t.isDirectory dir = true) :
    MayWrite t.view (Command.projectFile project) force
      ↔ (t.view.leadsSomewhere (Command.projectFile project) = false ∨ force = true)
        ∧ t.isDirectory (dir ++ ["flatlint.toml"]) = false := by
  rw [MayWrite, FileView.isFile, FileView.leadsSomewhere, FileTree.isDirectory,
    view_projectFile hproject hdir]
  cases t.node? (dir ++ ["flatlint.toml"]) with
  | none => simp
  | some node =>
      cases node with
      | file content => simp [FileTree.entryOf]
      | directory => simp [FileTree.entryOf]

lemma runInit_eq_write (h : t.view.leadsSomewhere (Command.projectFile project) = false
      ∨ force = true) :
    Command.runInit t.view project force preset
      = .write (Command.projectFile project) preset.render
          (.success (Command.nextSteps (Command.projectFile project)))
          (.failed ("Failed to write " ++ (Command.projectFile project).text)) := by
  have hnot : ¬ (t.view.leadsSomewhere (Command.projectFile project) && !force) = true := by
    rcases h with hnone | hforce
    · simp [hnone]
    · simp [hforce]
  rw [Command.runInit]
  exact if_neg hnot

lemma runInit_eq_finish (h : ¬ (t.view.leadsSomewhere (Command.projectFile project) = false
      ∨ force = true)) :
    Command.runInit t.view project force preset
      = .finish (.failed ("Configuration file already exists at "
          ++ (Command.projectFile project).text ++ ". Use --force to overwrite.")) := by
  have hyes : (t.view.leadsSomewhere (Command.projectFile project) && !force) = true := by
    simpa using h
  rw [Command.runInit]
  exact if_pos hyes

/-- **A file is written, or nothing is done**, depending on what has its name. -/
lemma perform_runInit (hproject : t.locate? project = some dir) (hdir : t.isDirectory dir = true)
    (force : Bool) (preset : Preset) :
    (∃ t', t.perform (Command.runInit t.view project force preset)
          = (.success (Command.nextSteps (Command.projectFile project)), t')
        ∧ t.WrittenAt t' (dir ++ ["flatlint.toml"]) preset.render.toUTF8
        ∧ MayWrite t.view (Command.projectFile project) force)
      ∨ ∃ message, t.perform (Command.runInit t.view project force preset) = (.failed message, t)
        ∧ ¬ MayWrite t.view (Command.projectFile project) force := by
  rw [mayWrite_iff hproject hdir]
  by_cases hasked : t.view.leadsSomewhere (Command.projectFile project) = false ∨ force = true
  · rw [runInit_eq_write hasked, FileTree.perform]
    cases htarget : t.isDirectory (dir ++ ["flatlint.toml"]) with
    | false =>
        obtain ⟨t', hwrite, hwritten⟩ := FileTree.exists_write?_join isEntryName_flatlint hproject
          hdir htarget preset.render
        rw [Command.projectFile, hwrite]
        exact Or.inl ⟨t', rfl, hwritten, hasked, rfl⟩
    | true =>
        have hwrite := FileTree.write?_join_eq_none isEntryName_flatlint hproject hdir htarget
          preset.render
        rw [Command.projectFile, hwrite]
        exact Or.inr ⟨_, rfl, fun hboth => absurd hboth.2 (by decide)⟩
  · rw [runInit_eq_finish hasked]
    exact Or.inr ⟨_, rfl, fun hboth => hasked hboth.1⟩

/-- A written file is found under its path. -/
lemma view_projectFile_of_written (hproject : t.locate? project = some dir)
    (hdir : t.isDirectory dir = true) {text : String}
    (h : t.WrittenAt t' (dir ++ ["flatlint.toml"]) text.toUTF8) :
    t'.view (Command.projectFile project) = some (.file (some text)) := by
  have hdir' : t'.isDirectory dir = true := by rw [h.isDirectory, hdir]
  have htext : String.fromUTF8? text.toUTF8 = some text := by
    simp [String.fromUTF8?]
    exact ⟨text.isValidUTF8, rfl⟩
  rw [view_projectFile (h.locate?_mono hproject) hdir', h.node, if_pos rfl, Option.map_some,
    FileTree.entryOf, htext]

end Writing

/-! ## Checking -/

section Checking

variable {t : FileTree} {preset : Preset}

/-- In a configuration without entries that are off, every rule is counted as used. -/
lemma enabledCount_eq_size {config : Configuration}
    (h : ∀ e ∈ config.rules.entries, ∃ (severity : Severity) (options : List Json),
      severity ≠ .off ∧ e.2 = severity.toJson :: options) :
    CheckReport.enabledCount config = config.rules.size := by
  rw [CheckReport.enabledCount, List.filter_eq_self.2, OrderedMap.keys, List.length_map,
    OrderedMap.size]
  intro id hid
  obtain ⟨e, he, rfl⟩ := List.mem_map.1 hid
  obtain ⟨severity, options, hon, heq⟩ := h e he
  simp [severity?_of_mem he heq, hon]

/-- Without another file the one that `init` writes is selected. -/
lemma select_projectFile {invocation : Invocation}
    (hview : t.view.isFile (Command.projectFile invocation.project) = true)
    (hconfig : invocation.config = none) :
    ConfigSource.select t.view invocation
      = .project (Command.projectFile invocation.project) := by
  have hpresent : (ConfigSource.project (Command.projectFile invocation.project)).isPresent t.view
      = true := hview
  rw [Command.projectFile] at hpresent
  rw [select_of_none hconfig, Invocation.sought, hconfig]
  simp [hpresent, Command.projectFile]

lemma runCheck_project {file : Path} {config : Configuration} {format : ReportFormat}
    (h : (RuleValidator.validate .draft04 {} config).1 = .ok ()) :
    Command.runCheck .draft04 (.project file) config format
      = { code := 0
          stdout := CheckReport.summary file config.rules.size (CheckReport.enabledCount config)
            format } := by
  rw [runCheck_of_ok h]
  cases format with
  | text => rfl
  | json => rfl

/-- **A check that finds a rendered preset** accepts all of its rules. -/
lemma runCommandLine_of_view {env : Environment} {arguments : List String}
    {invocation : Invocation} {format : ReportFormat}
    (hview : t.view (Command.projectFile invocation.project) = some (.file (some preset.render)))
    (hparse : Invocation.parse? env arguments = some invocation)
    (hconfig : invocation.config = none) (hcommand : invocation.command = .check format) :
    runCommandLine t env arguments
      = ({ code := 0
           stdout := CheckReport.summary (Command.projectFile invocation.project)
             preset.rules.length preset.rules.length format },
          t) := by
  have hfile : t.view.isFile (Command.projectFile invocation.project) = true := by
    rw [FileView.isFile, hview]
  have hholds : (ConfigSource.project (Command.projectFile invocation.project)).Holds t.view
      preset.file := by
    refine ConfigSource.Holds.file rfl ?_ preset.parse?_render
    rw [FileView.read?, hview]
  obtain ⟨config, hfileLoad, hsize, hentries⟩ := preset.load_file t.view
    (ConfigSource.project (Command.projectFile invocation.project)).manifestDir
    (0 + 1 + builtin.rules.size)
  have hload : (ConfigSource.project (Command.projectFile invocation.project)).load t.view
      = .ok config := ConfigSource.load_eq_ok_iff.2 ⟨preset.file, hholds, hfileLoad⟩
  have hverdict : plainVerdicts .draft04 config.plugins config.rules.entries = .ok () := by
    refine plainVerdicts_ok_iff.2 fun e he => ?_
    obtain ⟨severity, options, -, -, haccepted⟩ := hentries e he
    exact Or.inr haccepted
  have henabled : CheckReport.enabledCount config = preset.rules.length := by
    rw [enabledCount_eq_size, hsize]
    intro e he
    obtain ⟨severity, options, hon, heq, -⟩ := hentries e he
    exact ⟨severity, options, hon, heq⟩
  have houtcome : Command.runCheck .draft04 (.project (Command.projectFile invocation.project))
      config format
      = { code := 0
          stdout := CheckReport.summary (Command.projectFile invocation.project)
            preset.rules.length preset.rules.length format } := by
    rw [runCheck_project ((validate_of_load hload).trans hverdict), hsize, henabled]
  have hrun : invocation.run .draft04 t.view
      = Command.withConfiguration t.view (ConfigSource.select t.view invocation) fun config =>
          Command.runCheck .draft04 (ConfigSource.select t.view invocation) config format := by
    simp only [Invocation.run, hcommand]
  rw [← select_projectFile hfile hconfig] at hload houtcome
  refine Prod.ext ?_ (snd_runCommandLine hparse fun force preset heq => ?_)
  · rw [runCommandLine, runCommandLine_of_load hparse hload hrun, houtcome]
  · rw [hcommand] at heq
    cases heq

end Checking

/-! ## The outcome -/

lemma initAnswers_perform {t : FileTree} {project : Path}
    (hdirectory : t.view project = some .directory) (force : Bool) (preset : Preset) :
    InitAnswers t project force preset
      (t.perform (Command.runInit t.view project force preset)).1
      (t.perform (Command.runInit t.view project force preset)).2 := by
  obtain ⟨dir, hproject, hdir⟩ := FileTree.exists_locate?_of_view_directory hdirectory
  rcases perform_runInit hproject hdir force preset with
    ⟨t', hperform, hwritten, hmay⟩ | ⟨message, hperform, hnot⟩
  · have hview : t'.view (Command.projectFile project) = some (.file (some preset.render)) :=
      view_projectFile_of_written hproject hdir hwritten
    rw [hperform]
    exact
      { code_eq := Or.inl rfl
        code_zero_iff := iff_of_true rfl hmay
        kept := by
          intro hforce hsome
          rcases hmay with hnone | ⟨hforced, -⟩
          · exact absurd hnone hsome
          · exact nomatch hforce.symm.trans hforced
        unchanged := fun hone => nomatch hone
        written := fun _ => ⟨dir, hproject, hwritten, hview⟩
        accepted := by
          rintro - env arguments invocation format hparse hconfig rfl hcommand
          exact runCommandLine_of_view hview hparse hconfig hcommand }
  · rw [hperform]
    exact
      { code_eq := Or.inr rfl
        code_zero_iff := iff_of_false Nat.one_ne_zero hnot
        kept := fun _ _ => rfl
        unchanged := fun _ => rfl
        written := fun hzero => nomatch hzero
        accepted := fun hzero => nomatch hzero }

/-- **`init` is safe, and a check accepts what it writes.**

* Every other command leaves the tree as it is.
* `init` in a directory of the tree does to it what `InitAnswers` says: it fails and leaves the tree
  as it is, or it writes the preset into the configuration file of the project and changes nothing
  else, and a check of the project then accepts all of its rules. -/
theorem init_outcome (t : FileTree) (env : Environment) (arguments : List String)
    (invocation : Invocation) (hparse : Invocation.parse? env arguments = some invocation) :
    ((∀ force preset, invocation.command ≠ .init force preset) →
        (runCommandLine t env arguments).2 = t)
      ∧ ∀ force preset, invocation.command = .init force preset →
        t.view invocation.project = some .directory →
        InitAnswers t invocation.project force preset (runCommandLine t env arguments).1
          (runCommandLine t env arguments).2 := by
  refine ⟨snd_runCommandLine hparse, fun force preset hcommand hdirectory => ?_⟩
  have hrun : runCommandLine t env arguments
      = t.perform (Command.runInit t.view invocation.project force preset) := by
    rw [runCommandLine, runCommandLineWith, hparse]
    simp only [Invocation.run, hcommand]
  rw [hrun]
  exact initAnswers_perform hdirectory force preset

/-- In the littered directory there is a configuration file already.  It is kept unless it is to be
replaced, and then a check finds nothing but the nine rules of the preset. -/
theorem init_outcome_litteredTree :
    Invocation.parse? homeEnvironment ["init"]
        = some ⟨none, ⟨"."⟩, some ⟨"home/.flatlint"⟩, .init false .recommended⟩
      ∧ runCommandLine litteredTree homeEnvironment ["init"]
        = ({ code := 1
             stderr := "Error: Configuration file already exists at ./flatlint.toml. "
               ++ "Use --force to overwrite.\n" },
          litteredTree)
      ∧ Invocation.parse? homeEnvironment ["init", "--force", "--preset", "strict"]
        = some ⟨none, ⟨"."⟩, some ⟨"home/.flatlint"⟩, .init true .strict⟩
      ∧ runCommandLine
          (runCommandLine litteredTree homeEnvironment ["init", "--force", "--preset", "strict"]).2
          homeEnvironment ["check"]
        = ({ code := 0
             stdout := "\x1b[32mok\x1b[0m ./flatlint.toml: 9 rule(s) configured, 9 enabled\n" },
          (runCommandLine litteredTree homeEnvironment
            ["init", "--force", "--preset", "strict"]).2) := by
  have hinit : Invocation.parse? homeEnvironment ["init"]
      = some ⟨none, ⟨"."⟩, some ⟨"home/.flatlint"⟩, .init false .recommended⟩ := by rfl
  have hforce : Invocation.parse? homeEnvironment ["init", "--force", "--preset", "strict"]
      = some ⟨none, ⟨"."⟩, some ⟨"home/.flatlint"⟩, .init true .strict⟩ := by rfl
  have hcheck : Invocation.parse? homeEnvironment ["check"]
      = some ⟨none, ⟨"."⟩, some ⟨"home/.flatlint"⟩, .check .text⟩ := by rfl
  have hdirectory : litteredTree.view ⟨"."⟩ = some .directory := by decide +kernel
  have hthere : litteredTree.view (Command.projectFile ⟨"."⟩) ≠ none := by decide +kernel
  have hfile : litteredTree.view.isFile (Command.projectFile ⟨"."⟩) = true := by decide +kernel
  have hkept := (init_outcome litteredTree homeEnvironment _ _ hinit).2 _ _ rfl hdirectory
  have hreplaced := (init_outcome litteredTree homeEnvironment _ _ hforce).2 _ _ rfl hdirectory
  have hreport : CheckReport.summary (Command.projectFile ⟨"."⟩) Preset.strict.rules.length
        Preset.strict.rules.length .text
      = "\x1b[32mok\x1b[0m ./flatlint.toml: 9 rule(s) configured, 9 enabled\n" := by decide +kernel
  refine ⟨hinit, Prod.ext (by decide +kernel) ?_, hforce, ?_⟩
  · exact hkept.unchanged (hkept.kept rfl hthere)
  · have hzero := hreplaced.code_zero_iff.2 (Or.inr ⟨rfl, hfile⟩)
    rw [hreplaced.accepted hzero homeEnvironment _ _ _ hcheck rfl rfl rfl]
    exact congrArg (fun stdout => (Outcome.success stdout, _)) hreport

end LintConfig
