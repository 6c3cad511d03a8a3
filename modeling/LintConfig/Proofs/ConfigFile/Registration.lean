import Mathlib
import LintConfig.ConfigFile.Loading
import LintConfig.Proofs.Plugin.Identity

/-!
# Registering the plugins of a file

**Faults.**  A manifest is read where it is first listed, so `listedPath?` looks among the entries
in front for a path with the same steps, and `PluginFault` says what is wrong with an entry, given
the entries before it.  `PluginsLoad` says that nothing is wrong with any entry of a list, and
`FirstPluginFault` that something is, for the first time, with an error.  They exclude each other,
and the error is unique (`FirstPluginFault.not_pluginsLoad`, `FirstPluginFault.unique`).

**The invariant.**  `Registered` says what `registerAll` has built once some entries are behind it.
One more entry either names a manifest that was read before (`Registered.reuse`) or one that was
not (`Registered.read`); `registerAll_of_registered` is the run.

**Identities.**  In a `Registered` state names with the same steps hold the same plugin, and names
with different steps plugins that share no identity (`Registered.eq_of_steps_eq`,
`Registered.apart_of_steps_ne`).  So a key belongs to one definition (`Registered.eq_of_key_eq`).
-/

namespace LintConfig

lemma Path.sameAs_iff {p q : Path} : p.sameAs q = true ↔ p.steps = q.steps := decide_eq_true_iff

lemma Path.sameAs_eq_false_iff {p q : Path} : p.sameAs q = false ↔ p.steps ≠ q.steps :=
  decide_eq_false_iff_not

namespace ConfigFile

/-! ## Faults -/

/-- The path by which the manifest at a path is first listed. -/
def listedPath? (base : Path) (entries : List (String × Path)) (path : Path) : Option Path :=
  (entries.map fun e => base.join e.2).find? fun listed => listed.sameAs path

/-- A path leads to the manifest of a declaration. -/
def Declares (view : FileView) (path : Path) (declaration : PluginDeclaration) : Prop :=
  ∃ text, view.read? path = some text ∧ Manifest.parse text = .ok declaration

/-- What is wrong with a plugin entry behind some others: its name is taken, or its manifest, not
listed before, cannot be read or does not declare a plugin. -/
inductive PluginFault (view : FileView) (base : Path) (before : List (String × Path))
    (name : String) (manifest : Path) : ConfigError → Prop where
  | reserved : name = "@" ∨ name = "" →
      PluginFault view base before name manifest (.reservedName name)
  | unreadable : ¬ (name = "@" ∨ name = "") → listedPath? base before (base.join manifest) = none →
      view.read? (base.join manifest) = none →
      PluginFault view base before name manifest (.unreadable (base.join manifest))
  | malformed {text : String} {cause : ManifestError} : ¬ (name = "@" ∨ name = "") →
      listedPath? base before (base.join manifest) = none →
      view.read? (base.join manifest) = some text → Manifest.parse text = .error cause →
      PluginFault view base before name manifest (.badManifest (base.join manifest) cause)

/-- Plugin entries with free names, whose manifests are read where they are first listed. -/
structure PluginsLoad (view : FileView) (base : Path) (entries : List (String × Path)) : Prop where
  name_free : ∀ e ∈ entries, ¬ (e.1 = "@" ∨ e.1 = "")
  declares : ∀ path listed, listedPath? base entries path = some listed →
    ∃ declaration, Declares view listed declaration

/-- The error of the first entry that something is wrong with. -/
def FirstPluginFault (view : FileView) (base : Path) (entries : List (String × Path))
    (error : ConfigError) : Prop :=
  ∃ before name manifest later, entries = before ++ (name, manifest) :: later ∧
    PluginsLoad view base before ∧ PluginFault view base before name manifest error

section Faults

variable {view : FileView} {base : Path} {before entries : List (String × Path)} {name : String}
  {manifest path path' : Path} {error error' : ConfigError}

lemma isReserved_iff : isReserved name = true ↔ name = "@" ∨ name = "" := by
  rw [isReserved, Bool.or_eq_true, decide_eq_true_iff, decide_eq_true_iff]
  rfl

lemma listedPath?_congr (h : path.steps = path'.steps) :
    listedPath? base entries path = listedPath? base entries path' := by
  simp only [listedPath?, Path.sameAs, h]

/-- One more entry only matters for a path that is not listed yet. -/
lemma listedPath?_append_singleton :
    listedPath? base (before ++ [(name, manifest)]) path
      = (listedPath? base before path).or
          (if (base.join manifest).steps = path.steps then some (base.join manifest)
            else none) := by
  rw [listedPath?, List.map_append, List.find?_append]
  by_cases hsteps : (base.join manifest).steps = path.steps
  · simp [listedPath?, Path.sameAs_iff.2 hsteps, hsteps]
  · simp [listedPath?, Path.sameAs_eq_false_iff.2 hsteps, hsteps]

lemma PluginsLoad.of_append {later : List (String × Path)}
    (h : PluginsLoad view base (before ++ later)) : PluginsLoad view base before where
  name_free e he := h.name_free e (List.mem_append_left later he)
  declares path listed hlisted := by
    refine h.declares path listed ?_
    rw [listedPath?] at hlisted ⊢
    rw [List.map_append, List.find?_append, hlisted]
    rfl

/-- **One more entry** loads exactly if nothing is wrong with it. -/
lemma pluginsLoad_append_singleton :
    PluginsLoad view base (before ++ [(name, manifest)])
      ↔ PluginsLoad view base before ∧
        ∀ error, ¬ PluginFault view base before name manifest error := by
  constructor
  · intro h
    have hfree := h.name_free (name, manifest) (by simp)
    -- an entry that is listed here for the first time is read here
    have hread : listedPath? base before (base.join manifest) = none →
        ∃ declaration, Declares view (base.join manifest) declaration := by
      intro hnone
      refine h.declares (base.join manifest) _ ?_
      rw [listedPath?_append_singleton, hnone, if_pos rfl]
      rfl
    refine ⟨h.of_append, fun error hfault => ?_⟩
    cases hfault with
    | reserved hreserved => exact hfree hreserved
    | unreadable _ hnone hunreadable =>
        obtain ⟨declaration, text, htext, -⟩ := hread hnone
        rw [hunreadable] at htext
        exact nomatch htext
    | malformed _ hnone htext hparse =>
        obtain ⟨declaration, text, htext', hparse'⟩ := hread hnone
        obtain rfl := Option.some.inj (htext.symm.trans htext')
        rw [hparse] at hparse'
        exact nomatch hparse'
  · rintro ⟨h, hfault⟩
    have hfree : ¬ (name = "@" ∨ name = "") :=
      fun hreserved => hfault _ (PluginFault.reserved hreserved)
    constructor
    · intro e he
      rcases List.mem_append.1 he with hbefore | hlast
      · exact h.name_free e hbefore
      · obtain rfl := List.mem_singleton.1 hlast
        exact hfree
    · intro path listed hlisted
      rw [listedPath?_append_singleton] at hlisted
      cases hbefore : listedPath? base before path with
      | some earlier =>
          rw [hbefore] at hlisted
          exact h.declares path listed (hbefore.trans hlisted)
      | none =>
          rw [hbefore, Option.none_or] at hlisted
          split_ifs at hlisted with hsteps
          obtain rfl := Option.some.inj hlisted
          have hnone : listedPath? base before (base.join manifest) = none := by
            rw [listedPath?_congr hsteps]
            exact hbefore
          cases htext : view.read? (base.join manifest) with
          | none => exact absurd (PluginFault.unreadable hfree hnone htext) (hfault _)
          | some text =>
              cases hparse : Manifest.parse text with
              | error cause =>
                  exact absurd (PluginFault.malformed hfree hnone htext hparse) (hfault _)
              | ok declaration => exact ⟨declaration, text, htext, hparse⟩

lemma PluginFault.unique (h : PluginFault view base before name manifest error)
    (h' : PluginFault view base before name manifest error') : error = error' := by
  cases h with
  | reserved hreserved =>
      cases h' with
      | reserved _ => rfl
      | unreadable hfree _ _ => exact absurd hreserved hfree
      | malformed hfree _ _ _ => exact absurd hreserved hfree
  | unreadable hfree _ hnone =>
      cases h' with
      | reserved hreserved => exact absurd hreserved hfree
      | unreadable _ _ _ => rfl
      | malformed _ _ htext _ => exact nomatch hnone.symm.trans htext
  | malformed hfree _ htext hparse =>
      cases h' with
      | reserved hreserved => exact absurd hreserved hfree
      | unreadable _ _ hnone => exact nomatch hnone.symm.trans htext
      | malformed _ _ htext' hparse' =>
          obtain rfl := Option.some.inj (htext.symm.trans htext')
          rw [Except.error.inj (hparse.symm.trans hparse')]

/-- An entry with nothing wrong in front of it that something is wrong with does not load. -/
lemma PluginFault.not_pluginsLoad {later : List (String × Path)}
    (h : PluginFault view base before name manifest error) :
    ¬ PluginsLoad view base (before ++ (name, manifest) :: later) := by
  intro hload
  rw [List.append_cons] at hload
  exact (pluginsLoad_append_singleton.1 hload.of_append).2 error h

lemma FirstPluginFault.not_pluginsLoad (h : FirstPluginFault view base entries error) :
    ¬ PluginsLoad view base entries := by
  obtain ⟨before, name, manifest, later, rfl, -, hfault⟩ := h
  exact hfault.not_pluginsLoad

/-- **The first fault of a list is one fault.** -/
lemma FirstPluginFault.unique (h : FirstPluginFault view base entries error)
    (h' : FirstPluginFault view base entries error') : error = error' := by
  obtain ⟨before, name, manifest, later, rfl, hload, hfault⟩ := h
  obtain ⟨before', name', manifest', later', heq, hload', hfault'⟩ := h'
  rcases List.append_eq_append_iff.1 heq with ⟨between, rfl, hrest⟩ | ⟨between, rfl, hrest⟩
  -- an entry between the two would stand in front of the later one, and load
  · cases between with
    | nil =>
        obtain ⟨hentry, -⟩ := List.cons.inj hrest
        obtain ⟨rfl, rfl⟩ := Prod.mk.inj hentry
        rw [List.append_nil] at hfault'
        exact hfault.unique hfault'
    | cons first between =>
        obtain ⟨rfl, -⟩ := List.cons.inj hrest
        exact absurd hload' hfault.not_pluginsLoad
  · cases between with
    | nil =>
        obtain ⟨hentry, -⟩ := List.cons.inj hrest
        obtain ⟨rfl, rfl⟩ := Prod.mk.inj hentry
        rw [List.append_nil] at hfault
        exact hfault.unique hfault'
    | cons first between =>
        obtain ⟨rfl, -⟩ := List.cons.inj hrest
        exact absurd hload hfault'.not_pluginsLoad

end Faults

/-! ## The invariant -/

/-- What has been built once the entries in `before` are registered, if the numbers from `first` on
were free at the beginning. -/
structure Registered (view : FileView) (base : Path) (builtins : Plugin) (first : Nat)
    (before : List (String × Path)) (loaded : List (Path × Plugin)) (registry : Registry)
    (next : Nat) : Prop where
  pluginsLoad : PluginsLoad view base before
  first_le : first ≤ next
  keys : registry.keys = builtinName :: before.map Prod.fst
  builtin : registry.get? builtinName = some builtins
  bound : ∀ e ∈ before, registry.get? e.1 = alreadyLoaded? loaded (base.join e.2)
  unlisted : ∀ path, listedPath? base before path = none → alreadyLoaded? loaded path = none
  listed : ∀ path listed, listedPath? base before path = some listed →
    ∃ plugin, alreadyLoaded? loaded path = some plugin ∧ Declares view listed plugin.declaration
  numbered : ∀ e ∈ loaded, e.2.NumberedWithin first next
  distinct : ∀ e ∈ loaded, e.2.DistinctRules
  apart : loaded.Pairwise fun newer older => newer.2.Apart older.2

section Invariant

variable {view : FileView} {base : Path} {builtins plugin plugin' : Plugin} {first next : Nat}
  {before rest : List (String × Path)} {loaded : List (Path × Plugin)} {registry : Registry}
  {name : String} {manifest path path' : Path}

lemma alreadyLoaded?_congr (h : path.steps = path'.steps) :
    alreadyLoaded? loaded path = alreadyLoaded? loaded path' := by
  simp only [alreadyLoaded?, Path.sameAs, h]

lemma alreadyLoaded?_cons :
    alreadyLoaded? ((path, plugin) :: loaded) path'
      = if path.steps = path'.steps then some plugin else alreadyLoaded? loaded path' := by
  by_cases hsteps : path.steps = path'.steps
  · simp [alreadyLoaded?, Path.sameAs_iff.2 hsteps, hsteps]
  · simp [alreadyLoaded?, Path.sameAs_eq_false_iff.2 hsteps, hsteps]

lemma exists_of_alreadyLoaded? (h : alreadyLoaded? loaded path = some plugin) :
    ∃ listed, (listed, plugin) ∈ loaded ∧ listed.steps = path.steps := by
  obtain ⟨e, hfind, rfl⟩ := Option.map_eq_some_iff.1 h
  have hsame : e.1.sameAs path = true := by simpa using List.find?_some hfind
  exact ⟨e.1, List.mem_of_find?_eq_some hfind, Path.sameAs_iff.1 hsame⟩

lemma registered_nil :
    Registered view base builtins first [] [] ((∅ : Registry).insert builtinName builtins)
      first where
  pluginsLoad := ⟨fun e he => absurd he List.not_mem_nil, fun path listed h => nomatch h⟩
  first_le := Nat.le_refl first
  keys := rfl
  builtin := by rw [OrderedMap.get?_insert, if_pos rfl]
  bound e he := absurd he List.not_mem_nil
  unlisted path _ := rfl
  listed path listed h := nomatch h
  numbered e he := absurd he List.not_mem_nil
  distinct e he := absurd he List.not_mem_nil
  apart := List.Pairwise.nil

/-- What has been read is what is listed. -/
lemma Registered.alreadyLoaded?_eq_none_iff
    (h : Registered view base builtins first before loaded registry next) :
    alreadyLoaded? loaded path = none ↔ listedPath? base before path = none := by
  refine ⟨fun hnone => ?_, h.unlisted path⟩
  rw [Option.eq_none_iff_forall_ne_some]
  intro listed hlisted
  obtain ⟨plugin, hloaded, -⟩ := h.listed _ _ hlisted
  exact nomatch hnone.symm.trans hloaded

/-- Every registered entry is bound to the plugin of its manifest. -/
lemma Registered.exists_bound (h : Registered view base builtins first before loaded registry next)
    {e : String × Path} (he : e ∈ before) :
    ∃ listed plugin, listedPath? base before (base.join e.2) = some listed
      ∧ registry.get? e.1 = some plugin ∧ Declares view listed plugin.declaration := by
  have hsome : (listedPath? base before (base.join e.2)).isSome := by
    rw [listedPath?, List.find?_isSome]
    exact ⟨base.join e.2, List.mem_map.2 ⟨e, he, rfl⟩, Path.sameAs_iff.2 rfl⟩
  obtain ⟨listed, hlisted⟩ := Option.isSome_iff_exists.1 hsome
  obtain ⟨plugin, hloaded, hdeclares⟩ := h.listed _ _ hlisted
  exact ⟨listed, plugin, hlisted, (h.bound e he).trans hloaded, hdeclares⟩

/-- A new name comes last in the registry. -/
lemma Registered.keys_insert (h : Registered view base builtins first before loaded registry next)
    (hfree : ¬ (name = "@" ∨ name = "")) (hnew : name ∉ before.map Prod.fst) :
    (registry.insert name plugin).keys
      = builtinName :: (before ++ [(name, manifest)]).map Prod.fst := by
  have hnot : name ∉ builtinName :: before.map Prod.fst := by
    rw [List.mem_cons, not_or]
    exact ⟨fun heq => hfree (Or.inl heq), hnew⟩
  rw [OrderedMap.keys_insert, h.keys, if_neg hnot, List.map_append]
  rfl

/-- A new name leaves the other ones bound as they are. -/
lemma get?_insert_of_mem (hnew : name ∉ before.map Prod.fst) {e : String × Path} (he : e ∈ before) :
    (registry.insert name plugin).get? e.1 = registry.get? e.1 := by
  have hne : name ≠ e.1 := fun heq => hnew (List.mem_map.2 ⟨e, he, heq.symm⟩)
  rw [OrderedMap.get?_insert, if_neg hne]

/-- **An entry whose manifest has been read** is bound to the plugin that came of it. -/
lemma Registered.reuse (h : Registered view base builtins first before loaded registry next)
    (hfree : ¬ (name = "@" ∨ name = "")) (hnew : name ∉ before.map Prod.fst)
    (hloaded : alreadyLoaded? loaded (base.join manifest) = some plugin) :
    Registered view base builtins first (before ++ [(name, manifest)]) loaded
      (registry.insert name plugin) next := by
  have hlisted : (listedPath? base before (base.join manifest)).isSome := by
    rw [← Option.ne_none_iff_isSome, Ne, ← h.alreadyLoaded?_eq_none_iff, hloaded]
    exact Option.some_ne_none plugin
  -- so this entry lists no path for the first time
  have hsame : ∀ path, listedPath? base (before ++ [(name, manifest)]) path
      = listedPath? base before path := by
    intro path
    rw [listedPath?_append_singleton]
    by_cases hsteps : (base.join manifest).steps = path.steps
    · rw [listedPath?_congr hsteps] at hlisted
      obtain ⟨listed, heq⟩ := Option.isSome_iff_exists.1 hlisted
      rw [heq]
      rfl
    · rw [if_neg hsteps, Option.or_none]
  have hfault : ∀ error, ¬ PluginFault view base before name manifest error := by
    intro error hfault
    cases hfault with
    | reserved hreserved => exact hfree hreserved
    | unreadable _ hnone _ => exact absurd hlisted (by rw [hnone]; simp)
    | malformed _ hnone _ _ => exact absurd hlisted (by rw [hnone]; simp)
  exact
    { pluginsLoad := pluginsLoad_append_singleton.2 ⟨h.pluginsLoad, hfault⟩
      first_le := h.first_le
      keys := h.keys_insert hfree hnew
      builtin := by
        rw [OrderedMap.get?_insert, if_neg fun heq : name = builtinName => hfree (Or.inl heq)]
        exact h.builtin
      bound := by
        intro e he
        rcases List.mem_append.1 he with hbefore | hlast
        · rw [get?_insert_of_mem hnew hbefore]
          exact h.bound e hbefore
        · obtain rfl := List.mem_singleton.1 hlast
          rw [OrderedMap.get?_insert, if_pos rfl]
          exact hloaded.symm
      unlisted := fun path hnone => h.unlisted path ((hsame path).symm.trans hnone)
      listed := fun path listed hlisted => h.listed path listed ((hsame path).symm.trans hlisted)
      numbered := h.numbered
      distinct := h.distinct
      apart := h.apart }

/-- **An entry whose manifest is read here** is bound to a plugin with new numbers. -/
lemma Registered.read (h : Registered view base builtins first before loaded registry next)
    (hfree : ¬ (name = "@" ∨ name = "")) (hnew : name ∉ before.map Prod.fst)
    (hunknown : alreadyLoaded? loaded (base.join manifest) = none) {declaration : PluginDeclaration}
    (hdeclares : Declares view (base.join manifest) declaration) :
    Registered view base builtins first (before ++ [(name, manifest)])
      ((base.join manifest, declaration.number next) :: loaded)
      (registry.insert name (declaration.number next)) (next + 1 + declaration.rules.size) := by
  have hunlisted : listedPath? base before (base.join manifest) = none :=
    h.alreadyLoaded?_eq_none_iff.1 hunknown
  have hfault : ∀ error, ¬ PluginFault view base before name manifest error := by
    obtain ⟨text, htext, hparse⟩ := hdeclares
    intro error hfault
    cases hfault with
    | reserved hreserved => exact hfree hreserved
    | unreadable _ _ hnone => exact nomatch hnone.symm.trans htext
    | malformed _ _ htext' hparse' =>
        obtain rfl := Option.some.inj (htext.symm.trans htext')
        exact nomatch hparse.symm.trans hparse'
  have hfirst := h.first_le
  exact
    { pluginsLoad := pluginsLoad_append_singleton.2 ⟨h.pluginsLoad, hfault⟩
      first_le := by omega
      keys := h.keys_insert hfree hnew
      builtin := by
        rw [OrderedMap.get?_insert, if_neg fun heq : name = builtinName => hfree (Or.inl heq)]
        exact h.builtin
      bound := by
        intro e he
        rcases List.mem_append.1 he with hbefore | hlast
        · -- the paths in front have been read, so this one is none of them
          obtain ⟨listed, plugin, hlisted, -, -⟩ := h.exists_bound hbefore
          have hsteps : (base.join manifest).steps ≠ (base.join e.2).steps := by
            intro heq
            rw [← listedPath?_congr heq, hunlisted] at hlisted
            exact nomatch hlisted
          rw [get?_insert_of_mem hnew hbefore, alreadyLoaded?_cons, if_neg hsteps]
          exact h.bound e hbefore
        · obtain rfl := List.mem_singleton.1 hlast
          rw [OrderedMap.get?_insert, if_pos rfl, alreadyLoaded?_cons, if_pos rfl]
      unlisted := by
        intro path hnone
        rw [listedPath?_append_singleton, Option.or_eq_none_iff] at hnone
        have hsteps : (base.join manifest).steps ≠ path.steps := by
          intro heq
          rw [if_pos heq] at hnone
          exact nomatch hnone.2
        rw [alreadyLoaded?_cons, if_neg hsteps]
        exact h.unlisted path hnone.1
      listed := by
        intro path listed hlisted
        rw [listedPath?_append_singleton] at hlisted
        rw [alreadyLoaded?_cons]
        by_cases hsteps : (base.join manifest).steps = path.steps
        · rw [← listedPath?_congr hsteps, hunlisted, if_pos hsteps, Option.none_or] at hlisted
          obtain rfl := Option.some.inj hlisted
          refine ⟨_, if_pos hsteps, ?_⟩
          rw [Plugin.declaration_number]
          exact hdeclares
        · rw [if_neg hsteps, Option.or_none] at hlisted
          rw [if_neg hsteps]
          exact h.listed path listed hlisted
      numbered := by
        intro e he
        rcases List.mem_cons.1 he with rfl | hloaded
        · exact (Plugin.numberedWithin_number declaration next).mono hfirst (Nat.le_refl _)
        · exact (h.numbered e hloaded).mono (Nat.le_refl _) (by omega)
      distinct := by
        intro e he
        rcases List.mem_cons.1 he with rfl | hloaded
        · exact Plugin.distinctRules_number declaration next
        · exact h.distinct e hloaded
      apart := by
        refine List.pairwise_cons.2 ⟨fun e he => ?_, h.apart⟩
        exact ((h.numbered e he).apart (Plugin.numberedWithin_number declaration next)).symm }

/-! ## The run -/

/-- **Registering entries one after the other** either comes to the end, or stops at the first fault
with its error. -/
theorem registerAll_of_registered
    (h : Registered view base builtins first before loaded registry next)
    (hnodup : ((before ++ rest).map Prod.fst).Nodup) :
    (∃ loaded' registry' next',
        registerAll view base rest loaded registry next = .ok (registry', next')
          ∧ Registered view base builtins first (before ++ rest) loaded' registry' next')
      ∨ ∃ error, registerAll view base rest loaded registry next = .error error
          ∧ FirstPluginFault view base (before ++ rest) error := by
  induction rest generalizing before loaded registry next with
  | nil =>
      rw [List.append_nil]
      exact Or.inl ⟨loaded, registry, next, rfl, h⟩
  | cons entry rest ih =>
      obtain ⟨name, manifest⟩ := entry
      have hnew : name ∉ before.map Prod.fst := by
        intro hmem
        rw [List.map_append, List.nodup_append] at hnodup
        exact hnodup.2.2 name hmem name (by simp) rfl
      rw [List.append_cons] at hnodup
      rw [registerAll]
      by_cases hreserved : name = "@" ∨ name = ""
      · rw [if_pos (isReserved_iff.2 hreserved)]
        exact Or.inr ⟨_, rfl, before, name, manifest, rest, rfl, h.pluginsLoad,
          PluginFault.reserved hreserved⟩
      rw [if_neg (mt isReserved_iff.1 hreserved)]
      dsimp only
      cases hloaded : alreadyLoaded? loaded (base.join manifest) with
      | some plugin =>
          rw [List.append_cons]
          exact ih (h.reuse hreserved hnew hloaded) hnodup
      | none =>
          have hunlisted : listedPath? base before (base.join manifest) = none :=
            h.alreadyLoaded?_eq_none_iff.1 hloaded
          cases htext : view.read? (base.join manifest) with
          | none =>
              simp only [readManifest, htext]
              exact Or.inr ⟨_, rfl, before, name, manifest, rest, rfl, h.pluginsLoad,
                PluginFault.unreadable hreserved hunlisted htext⟩
          | some text =>
              cases hparse : Manifest.parse text with
              | error cause =>
                  simp only [readManifest, htext, hparse]
                  exact Or.inr ⟨_, rfl, before, name, manifest, rest, rfl, h.pluginsLoad,
                    PluginFault.malformed hreserved hunlisted htext hparse⟩
              | ok declaration =>
                  simp only [readManifest, htext, hparse]
                  rw [List.append_cons]
                  exact ih (h.read hreserved hnew hloaded ⟨text, htext, hparse⟩) hnodup

/-! ## Identities -/

/-- Two manifests that were read are one, or their plugins share nothing. -/
lemma Registered.eq_or_apart
    (h : Registered view base builtins first before loaded registry next)
    (hmem : (path, plugin) ∈ loaded) (hmem' : (path', plugin') ∈ loaded) :
    (path, plugin) = (path', plugin') ∨ plugin.Apart plugin' := by
  have : Std.Symm fun newer older : Path × Plugin => newer.2.Apart older.2 :=
    ⟨fun _ _ hapart => hapart.symm⟩
  exact or_iff_not_imp_left.2 (h.apart.forall hmem hmem')

/-- Names whose paths have the same steps hold the same plugin. -/
lemma Registered.eq_of_steps_eq
    (h : Registered view base builtins first before loaded registry next)
    {e e' : String × Path} (he : e ∈ before) (he' : e' ∈ before)
    (hplugin : registry.get? e.1 = some plugin) (hplugin' : registry.get? e'.1 = some plugin')
    (hsteps : (base.join e.2).steps = (base.join e'.2).steps) : plugin = plugin' := by
  rw [h.bound e he] at hplugin
  rw [h.bound e' he', ← alreadyLoaded?_congr hsteps, hplugin] at hplugin'
  exact Option.some.inj hplugin'

/-- Names whose paths have different steps hold plugins that share nothing. -/
lemma Registered.apart_of_steps_ne
    (h : Registered view base builtins first before loaded registry next)
    {e e' : String × Path} (he : e ∈ before) (he' : e' ∈ before)
    (hplugin : registry.get? e.1 = some plugin) (hplugin' : registry.get? e'.1 = some plugin')
    (hsteps : (base.join e.2).steps ≠ (base.join e'.2).steps) : plugin.Apart plugin' := by
  rw [h.bound e he] at hplugin
  rw [h.bound e' he'] at hplugin'
  obtain ⟨path, hmem, hpath⟩ := exists_of_alreadyLoaded? hplugin
  obtain ⟨path', hmem', hpath'⟩ := exists_of_alreadyLoaded? hplugin'
  refine (h.eq_or_apart hmem hmem').resolve_left fun heq => hsteps ?_
  rw [← hpath, ← hpath', (Prod.mk.inj heq).1]

/-- What a name holds is the built-in plugin, or came of a manifest that was read. -/
lemma Registered.builtin_or_loaded
    (h : Registered view base builtins first before loaded registry next)
    (hplugin : registry.get? name = some plugin) :
    plugin = builtins ∨ ∃ path, (path, plugin) ∈ loaded := by
  have hname : name ∈ builtinName :: before.map Prod.fst := by
    rw [← h.keys]
    exact OrderedMap.mem_keys_of_get? hplugin
  rcases List.mem_cons.1 hname with rfl | hname
  · rw [h.builtin] at hplugin
    exact Or.inl (Option.some.inj hplugin).symm
  · obtain ⟨e, he, rfl⟩ := List.mem_map.1 hname
    rw [h.bound e he] at hplugin
    obtain ⟨path, hmem, -⟩ := exists_of_alreadyLoaded? hplugin
    exact Or.inr ⟨path, hmem⟩

/-- **A key belongs to one definition of the registry**, if the built-in plugin was numbered with
its rules before. -/
lemma Registered.eq_of_key_eq
    (h : Registered view base builtins first before loaded registry next) {start : Nat}
    (hnumbered : builtins.NumberedWithin start first) (hdistinct : builtins.DistinctRules)
    {name' id id' : String} {rule rule' : RuleDefinition}
    (hplugin : registry.get? name = some plugin) (hrule : plugin.rule? id = some rule)
    (hplugin' : registry.get? name' = some plugin') (hrule' : plugin'.rule? id' = some rule')
    (hkey : rule.key = rule'.key) : rule = rule' := by
  rcases h.builtin_or_loaded hplugin with rfl | ⟨path, hmem⟩
  · rcases h.builtin_or_loaded hplugin' with rfl | ⟨path', hmem'⟩
    · exact hdistinct id rule id' rule' hrule hrule' hkey
    · have hapart := hnumbered.apart (h.numbered _ hmem')
      exact absurd hkey (hapart.rules id rule id' rule' hrule hrule')
  · rcases h.builtin_or_loaded hplugin' with rfl | ⟨path', hmem'⟩
    · have hapart := (hnumbered.apart (h.numbered _ hmem)).symm
      exact absurd hkey (hapart.rules id rule id' rule' hrule hrule')
    · rcases h.eq_or_apart hmem hmem' with heq | hapart
      · obtain ⟨-, rfl⟩ := Prod.mk.inj heq
        exact h.distinct _ hmem id rule id' rule' hrule hrule' hkey
      · exact absurd hkey (hapart.rules id rule id' rule' hrule hrule')

end Invariant

end ConfigFile

end LintConfig
