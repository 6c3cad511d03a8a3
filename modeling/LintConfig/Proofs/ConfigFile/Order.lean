import Mathlib
import LintConfig.Builtin
import LintConfig.Proofs.ConfigFile.Loading
import LintConfig.Proofs.FileTree

/-!
# Loading and the order of the plugins

The plugins of a file are registered in its order, but their order is not meant to matter for what
their names denote.

**Bindings.**  If a file loads in two orders, the registries are `SameUpToOrder`: the same is
declared under the same names, and the same names share a plugin.  Nothing is asked of the file for
that (`Registered.sameUpToOrder`).

**Success.**  Paths with the same steps are one manifest, and it is read as it is spelled where it
is first listed.  So a spelling that cannot be read, such as a slash behind the name of a file, is a
fault only if no readable one comes before it.  If the spellings of each manifest are `SpelledAlike`
the order has no part in whether a file loads (`PluginsLoad.perm`), and a file loads in every order
exactly if it loads in one and all its spellings can be read (`forall_perm_pluginsLoad_iff`).
`not_load_perm_slashed` is a file that loads in one of its two orders.
-/

namespace LintConfig

namespace ConfigFile

/-- The spellings of a manifest among some entries: all of them can be read, or none can. -/
def SpelledAlike (view : FileView) (base : Path) (entries : List (String × Path)) : Prop :=
  ∀ e ∈ entries, ∀ e' ∈ entries, (base.join e.2).steps = (base.join e'.2).steps →
    ((view.read? (base.join e.2)).isSome ↔ (view.read? (base.join e'.2)).isSome)

/-- Registries with the same names in some order, under each of which the same is declared, and in
which the same names share a plugin. -/
structure SameUpToOrder (registry registry' : Registry) : Prop where
  keys : registry'.keys.Perm registry.keys
  declared : ∀ name plugin plugin', registry.get? name = some plugin →
    registry'.get? name = some plugin' → plugin'.declaration = plugin.declaration
  shared : ∀ name other plugin plugin' second second',
    registry.get? name = some plugin → registry'.get? name = some plugin' →
    registry.get? other = some second → registry'.get? other = some second' →
    (plugin'.key = second'.key ↔ plugin.key = second.key)

lemma exists_of_isOk {ε α : Type} {x : Except ε α} (h : x.isOk = true) : ∃ a, x = .ok a := by
  cases x with
  | error error => exact nomatch h
  | ok a => exact ⟨a, rfl⟩

/-! ## Success -/

section Success

variable {view : FileView} {base path listed : Path} {entries entries' : List (String × Path)}

/-- What is first listed is the path of an entry, with the steps that were asked for. -/
lemma exists_of_listedPath? (h : listedPath? base entries path = some listed) :
    ∃ e ∈ entries, listed = base.join e.2 ∧ listed.steps = path.steps := by
  rw [listedPath?] at h
  obtain ⟨e, he, heq⟩ := List.mem_map.1 (List.mem_of_find?_eq_some h)
  have hsame := List.find?_some h
  exact ⟨e, he, heq.symm, Path.sameAs_iff.1 hsame⟩

lemma exists_listedPath?_of_mem {e : String × Path} (he : e ∈ entries)
    (hsteps : (base.join e.2).steps = path.steps) :
    ∃ listed, listedPath? base entries path = some listed := by
  rw [← Option.isSome_iff_exists, listedPath?, List.find?_isSome]
  exact ⟨base.join e.2, List.mem_map_of_mem he, Path.sameAs_iff.2 hsteps⟩

/-- Two spellings that can both be read declare the same. -/
lemma declares_of_steps_eq (hview : view.IgnoresSpelling) {declaration : PluginDeclaration}
    (h : Declares view listed declaration) (hsteps : listed.steps = path.steps)
    (hread : (view.read? path).isSome) : Declares view path declaration := by
  obtain ⟨text, htext, hparse⟩ := h
  obtain ⟨text', htext'⟩ := Option.isSome_iff_exists.1 hread
  obtain rfl := hview listed path hsteps text text' htext htext'
  exact ⟨text, htext', hparse⟩

lemma Declares.unique (hview : view.IgnoresSpelling) {declaration declaration' : PluginDeclaration}
    (h : Declares view listed declaration) (h' : Declares view path declaration')
    (hsteps : listed.steps = path.steps) : declaration' = declaration := by
  obtain ⟨text, htext, hparse⟩ := h
  obtain ⟨text', htext', hparse'⟩ := h'
  obtain rfl := hview listed path hsteps text text' htext htext'
  exact Except.ok.inj (hparse'.symm.trans hparse)

/-- **With spellings that are alike, plugins load in every order if they load in one.** -/
lemma PluginsLoad.perm (h : PluginsLoad view base entries) (hview : view.IgnoresSpelling)
    (hspelled : SpelledAlike view base entries) (hperm : entries'.Perm entries) :
    PluginsLoad view base entries' where
  name_free e he := h.name_free e (hperm.mem_iff.1 he)
  declares path listed' hlisted' := by
    obtain ⟨e', he', rfl, -⟩ := exists_of_listedPath? hlisted'
    have he' := hperm.mem_iff.1 he'
    -- the spelling that comes first in the one order is read as that of the other order is
    obtain ⟨listed, hlisted⟩ :=
      exists_listedPath?_of_mem he' (Eq.refl (base.join e'.2).steps)
    obtain ⟨declaration, hdeclares⟩ := h.declares _ listed hlisted
    obtain ⟨e, he, rfl, hsteps⟩ := exists_of_listedPath? hlisted
    have hread : (view.read? (base.join e.2)).isSome := by
      obtain ⟨text, htext, -⟩ := hdeclares
      rw [htext]
      rfl
    exact ⟨declaration, declares_of_steps_eq hview hdeclares hsteps
      ((hspelled e he e' he' hsteps).1 hread)⟩

/-- The manifest of the first entry is read as it is spelled there. -/
lemma PluginsLoad.isSome_read?_head {e : String × Path} (h : PluginsLoad view base (e :: entries)) :
    (view.read? (base.join e.2)).isSome := by
  have hlisted : listedPath? base (e :: entries) (base.join e.2) = some (base.join e.2) := by
    rw [listedPath?, List.map_cons]
    exact List.find?_cons_of_pos (Path.sameAs_iff.2 rfl)
  obtain ⟨declaration, text, htext, -⟩ := h.declares _ _ hlisted
  rw [htext]
  rfl

/-- **Plugins that load in one order load in all orders if every spelling can be read.** -/
lemma forall_perm_pluginsLoad_iff (h : PluginsLoad view base entries)
    (hview : view.IgnoresSpelling) :
    (∀ entries', entries'.Perm entries → PluginsLoad view base entries')
      ↔ ∀ e ∈ entries, (view.read? (base.join e.2)).isSome := by
  constructor
  · intro hall e he
    exact (hall _ (List.perm_cons_erase he).symm).isSome_read?_head
  · intro hread entries' hperm
    refine h.perm hview (fun e he e' he' _ => ?_) hperm
    exact iff_of_true (hread e he) (hread e' he')

end Success

/-! ## Bindings -/

section Bindings

variable {view : FileView} {base : Path} {builtins : Plugin} {first first' next next' start : Nat}
  {entries entries' : List (String × Path)} {loaded loaded' : List (Path × Plugin)}
  {registry registry' : Registry} {name : String} {plugin plugin' : Plugin}

/-- A name of a registry that was built from entries is the built-in one or that of an entry. -/
lemma Registered.name_cases
    (h : Registered view base builtins first entries loaded registry next)
    (hplugin : registry.get? name = some plugin) :
    (name = "@" ∧ plugin = builtins) ∨ ∃ e ∈ entries, e.1 = name := by
  have hname : name ∈ builtinName :: entries.map Prod.fst := by
    rw [← h.keys]
    exact OrderedMap.mem_keys_of_get? hplugin
  rcases List.mem_cons.1 hname with rfl | hname
  · exact Or.inl ⟨rfl, Option.some.inj (hplugin.symm.trans h.builtin)⟩
  · exact Or.inr (List.mem_map.1 hname)

/-- No entry shares the built-in plugin, if that was numbered before. -/
lemma Registered.key_ne_builtin
    (h : Registered view base builtins first entries loaded registry next)
    (hnumbered : builtins.NumberedWithin start first) {e : String × Path} (he : e ∈ entries)
    (hplugin : registry.get? e.1 = some plugin) : builtins.key ≠ plugin.key := by
  rw [h.bound e he] at hplugin
  obtain ⟨path, hmem, -⟩ := exists_of_alreadyLoaded? hplugin
  exact (hnumbered.apart (h.numbered _ hmem)).key

/-- Which names share a plugin is decided by the entries, whatever their order is. -/
lemma Registered.key_eq_iff
    (h : Registered view base builtins first entries loaded registry next) {e e' : String × Path}
    (he : e ∈ entries) (he' : e' ∈ entries) (hplugin : registry.get? e.1 = some plugin)
    (hplugin' : registry.get? e'.1 = some plugin') :
    plugin.key = plugin'.key ↔ (base.join e.2).steps = (base.join e'.2).steps :=
  (h.registers.shared e he e' he' plugin plugin' hplugin hplugin').2.1

/-- What a name declares is decided by the entry, whatever the order is. -/
lemma Registered.declaration_eq
    (h : Registered view base builtins first entries loaded registry next)
    (h' : Registered view base builtins first' entries' loaded' registry' next')
    (hview : view.IgnoresSpelling) (hperm : entries'.Perm entries) {e : String × Path}
    (he : e ∈ entries) (hplugin : registry.get? e.1 = some plugin)
    (hplugin' : registry'.get? e.1 = some plugin') :
    plugin'.declaration = plugin.declaration := by
  obtain ⟨listed, bound, hlisted, hbound, hdeclares⟩ := h.exists_bound he
  obtain ⟨listed', bound', hlisted', hbound', hdeclares'⟩ := h'.exists_bound (hperm.mem_iff.2 he)
  obtain rfl := Option.some.inj (hbound.symm.trans hplugin)
  obtain rfl := Option.some.inj (hbound'.symm.trans hplugin')
  obtain ⟨-, -, -, hsteps⟩ := exists_of_listedPath? hlisted
  obtain ⟨-, -, -, hsteps'⟩ := exists_of_listedPath? hlisted'
  exact hdeclares.unique hview hdeclares' (hsteps.trans hsteps'.symm)

/-- **Registering in another order** gives the same registry up to the order. -/
lemma Registered.sameUpToOrder
    (h : Registered view base builtins first entries loaded registry next)
    (h' : Registered view base builtins first' entries' loaded' registry' next')
    (hview : view.IgnoresSpelling) (hnumbered : builtins.NumberedWithin start first)
    (hnumbered' : builtins.NumberedWithin start first') (hperm : entries'.Perm entries) :
    SameUpToOrder registry registry' where
  keys := by
    rw [h.keys, h'.keys]
    exact (hperm.map Prod.fst).cons _
  declared name plugin plugin' hplugin hplugin' := by
    rcases h.name_cases hplugin with ⟨rfl, rfl⟩ | ⟨e, he, rfl⟩
    · rw [Option.some.inj (hplugin'.symm.trans h'.builtin)]
    · exact h.declaration_eq h' hview hperm he hplugin hplugin'
  shared name other plugin plugin' second second' hplugin hplugin' hsecond hsecond' := by
    rcases h.name_cases hplugin with ⟨rfl, rfl⟩ | ⟨e, he, rfl⟩
    · obtain rfl := Option.some.inj (hplugin'.symm.trans h'.builtin)
      rcases h.name_cases hsecond with ⟨rfl, rfl⟩ | ⟨e, he, rfl⟩
      · rw [Option.some.inj (hsecond'.symm.trans h'.builtin)]
      · exact iff_of_false (h'.key_ne_builtin hnumbered' (hperm.mem_iff.2 he) hsecond')
          (h.key_ne_builtin hnumbered he hsecond)
    · have he' := hperm.mem_iff.2 he
      rcases h.name_cases hsecond with ⟨rfl, rfl⟩ | ⟨e₂, he₂, rfl⟩
      · obtain rfl := Option.some.inj (hsecond'.symm.trans h'.builtin)
        exact iff_of_false (h'.key_ne_builtin hnumbered' he' hplugin').symm
          (h.key_ne_builtin hnumbered he hplugin).symm
      · rw [h'.key_eq_iff he' (hperm.mem_iff.2 he₂) hplugin' hsecond',
          h.key_eq_iff he he₂ hplugin hsecond]

end Bindings

/-- **The order of the plugins** matters only for which spelling of a manifest is read.

* If the spellings of each manifest can all be read or all not be, a file loads in one order exactly
  if it loads in the other.
* If it loads in both, its rules are the same, and so are the registries but for the order: the same
  declarations under the same names, and the same names with one plugin.
* A file that loads in one order loads in all orders exactly if every spelling in it can be read. -/
theorem load_perm (view : FileView) (hview : view.IgnoresSpelling) (base : Path) (builtins : Plugin)
    (start next next' : Nat) (hnumbered : builtins.NumberedWithin start next)
    (hnumbered' : builtins.NumberedWithin start next') (file file' : ConfigFile)
    (hplugins : file'.plugins.entries.Perm file.plugins.entries)
    (hrules : file'.rules = file.rules) :
    (SpelledAlike view base file.plugins.entries →
        ((∃ config, file'.load view base builtins next' = .ok config)
          ↔ ∃ config, file.load view base builtins next = .ok config))
      ∧ (∀ config config', file.load view base builtins next = .ok config →
          file'.load view base builtins next' = .ok config' →
          config'.rules = config.rules
            ∧ ∃ registry registry', config.plugins = some registry
              ∧ config'.plugins = some registry' ∧ SameUpToOrder registry registry')
      ∧ ((∃ config, file.load view base builtins next = .ok config) →
          ((∀ other : ConfigFile, other.plugins.entries.Perm file.plugins.entries →
              other.rules = file.rules →
              ∃ config, other.load view base builtins next' = .ok config)
            ↔ ∀ e ∈ file.plugins.entries, (view.read? (base.join e.2)).isSome)) := by
  have hentries : ∀ other : ConfigFile, other.rules = file.rules →
      other.ruleEntries = file.ruleEntries := by
    intro other hother
    rw [ruleEntries, ruleEntries, hother]
  refine ⟨fun hspelled => ?_, fun config config' h h' => ?_, fun hloads => ?_⟩
  · rw [exists_load_iff, exists_load_iff, hentries file' hrules]
    refine and_congr_left' ⟨fun h => ?_, fun h => h.perm hview hspelled hplugins⟩
    refine h.perm hview (fun e he e' he' => ?_) hplugins.symm
    exact hspelled e (hplugins.mem_iff.1 he) e' (hplugins.mem_iff.1 he')
  · obtain ⟨loaded, registry, last, hregistry, hregistered, hok⟩ := exists_registered_of_load h
    obtain ⟨loaded', registry', last', hregistry', hregistered', hok'⟩ :=
      exists_registered_of_load h'
    rw [hentries file' hrules, hok] at hok'
    exact ⟨(Except.ok.inj hok').symm, registry, registry', hregistry, hregistry',
      hregistered.sameUpToOrder hregistered' hview hnumbered hnumbered' hplugins⟩
  · obtain ⟨hload, hok⟩ := exists_load_iff.1 hloads
    rw [← forall_perm_pluginsLoad_iff hload hview]
    constructor
    · intro hall entries' hperm
      have hnodup : (entries'.map Prod.fst).Nodup :=
        (hperm.map Prod.fst).nodup_iff.2 file.plugins.nodup
      exact (exists_load_iff.1 (hall ⟨⟨entries', hnodup⟩, file.rules⟩ hperm rfl)).1
    · intro hall other hperm hother
      rw [exists_load_iff, hentries other hother]
      exact ⟨hall _ hperm, hok⟩

/-- A directory with one manifest. -/
def manifestTree : FileTree where
  nodes := ⟨[(["p.json"], .file "\x7b\"rules\":\x7b\"r\":\"function\"\x7d\x7d".toUTF8)], by decide⟩

/-- A configuration file that lists two manifests, under the names `a` and `b`. -/
def listing (a b : String) : ConfigFile where
  plugins := ⟨[("a", ⟨a⟩), ("b", ⟨b⟩)], by simp⟩

/-- The same file with `b` in front. -/
def listingBack (a b : String) : ConfigFile where
  plugins := ⟨[("b", ⟨b⟩), ("a", ⟨a⟩)], by simp⟩

/-- The first number behind those of the built-in plugin. -/
def firstFree : Nat := 0 + 1 + builtin.rules.size

/-- With a dot in one of the spellings the file loads in both orders, with the same registry. -/
theorem load_perm_dotted :
    ∃ config config' registry registry',
      (listing "p.json" "./p.json").load manifestTree.view ⟨"."⟩ (builtin.number 0) firstFree
          = .ok config
        ∧ (listingBack "p.json" "./p.json").load manifestTree.view ⟨"."⟩ (builtin.number 0)
            firstFree = .ok config'
        ∧ config.plugins = some registry ∧ config'.plugins = some registry'
        ∧ SameUpToOrder registry registry' := by
  obtain ⟨halike, hsame, -⟩ := load_perm manifestTree.view manifestTree.ignoresSpelling_view ⟨"."⟩
    (builtin.number 0) 0 firstFree firstFree (Plugin.numberedWithin_number builtin 0)
    (Plugin.numberedWithin_number builtin 0) (listing "p.json" "./p.json")
    (listingBack "p.json" "./p.json") (List.Perm.swap _ _ _) rfl
  have hspelled : SpelledAlike manifestTree.view ⟨"."⟩
      (listing "p.json" "./p.json").plugins.entries := by
    have hread : ∀ e ∈ (listing "p.json" "./p.json").plugins.entries,
        (manifestTree.view.read? (Path.join ⟨"."⟩ e.2)).isSome := by decide +kernel
    exact fun e he e' he' _ => iff_of_true (hread e he) (hread e' he')
  have hloads : ((listing "p.json" "./p.json").load manifestTree.view ⟨"."⟩ (builtin.number 0)
      firstFree).isOk = true := by decide +kernel
  obtain ⟨config, hload⟩ := exists_of_isOk hloads
  obtain ⟨config', hload'⟩ := (halike hspelled).2 ⟨config, hload⟩
  obtain ⟨-, registry, registry', hregistry, hregistry', hupto⟩ := hsame config config' hload hload'
  exact ⟨config, config', registry, registry', hload, hload', hregistry, hregistry', hupto⟩

/-- With a slash behind one of the spellings the file loads only if the other one comes first. -/
theorem not_load_perm_slashed :
    (listingBack "p.json" "p.json/").plugins.entries.Perm
        (listing "p.json" "p.json/").plugins.entries
      ∧ (listingBack "p.json" "p.json/").rules = (listing "p.json" "p.json/").rules
      ∧ (∃ config, (listing "p.json" "p.json/").load manifestTree.view ⟨"."⟩ (builtin.number 0)
          firstFree = .ok config)
      ∧ ¬ ∃ config, (listingBack "p.json" "p.json/").load manifestTree.view ⟨"."⟩
          (builtin.number 0) firstFree = .ok config := by
  have hloads : ((listing "p.json" "p.json/").load manifestTree.view ⟨"."⟩ (builtin.number 0)
      firstFree).isOk = true := by decide +kernel
  have hfails : ((listingBack "p.json" "p.json/").load manifestTree.view ⟨"."⟩ (builtin.number 0)
      firstFree).isOk = false := by decide +kernel
  refine ⟨List.Perm.swap _ _ _, rfl, exists_of_isOk hloads, ?_⟩
  rintro ⟨config, hload⟩
  rw [hload] at hfails
  exact nomatch hfails

end ConfigFile

end LintConfig
