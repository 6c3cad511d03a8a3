import Mathlib
import LintConfig.Proofs.Registration
import LintConfig.Proofs.Rule.Resolution

/-!
# Rules that hide each other

Plugin names and rule names may both hold slashes, so rules of different plugins can have the same
identifier.  Resolution then finds the rule with the shortest plugin name, and that rule hides the
others.

**First readings.**  `Registry.FirstReading` is the reading of an identifier that no other one
comes before.  It is what resolution finds (`resolve_of_slash_iff`), and there is one as soon as
there is any reading (`Registry.Reads.exists_firstReading`), so hiding a rule never makes its
identifier useless.

**Hidden rules.**  `Registry.Hidden` says when a rule is hidden, and `resolve_join` what its
identifier denotes: the rule itself, unless it is hidden.

**One more plugin.**  A registry that gains a plugin keeps all its readings and gains those of the
plugin (`Registry.Gains.reads_iff`).  So an identifier changes its meaning only if the new plugin
has a reading of it that comes first: `resolve_of_gains`.
-/

namespace LintConfig

lemma mapError_eq_ok_iff {ε ε' α : Type} {f : ε → ε'} {x : Except ε α} {a : α} :
    x.mapError f = .ok a ↔ x = .ok a := by
  cases x with
  | error e => simp [Except.mapError]
  | ok b => simp [Except.mapError]

namespace Registry

variable {registry : Registry} {id plugin rule : String} {definition : RuleDefinition}

/-! ## First readings -/

/-- A reading of an identifier whose plugin name is the shortest of all its readings. -/
structure FirstReading (registry : Registry) (id plugin rule : String)
    (definition : RuleDefinition) : Prop where
  reads : registry.Reads id plugin rule definition
  shortest : ∀ plugin' rule' definition', registry.Reads id plugin' rule' definition' →
    plugin.length ≤ plugin'.length

lemma findSome?_eq_some_iff_firstReading {name : RuleName} :
    (RuleId.splits id).findSome? registry.ruleOfSplit? = some (name, definition)
      ↔ registry.FirstReading id name.plugin name.rule definition := by
  rw [findSome?_ruleOfSplit?_eq_some_iff]
  simp only [not_lt]
  exact ⟨fun h => ⟨h.1, h.2⟩, fun h => ⟨h.reads, h.shortest⟩⟩

/-- **Where there is a reading, there is a first one.** -/
lemma Reads.exists_firstReading (h : registry.Reads id plugin rule definition) :
    ∃ (name : RuleName) (found : RuleDefinition),
      registry.FirstReading id name.plugin name.rule found := by
  cases hfound : (RuleId.splits id).findSome? registry.ruleOfSplit? with
  | none => exact absurd h (findSome?_ruleOfSplit?_eq_none_iff.1 hfound plugin rule definition)
  | some found => exact ⟨found.1, found.2, findSome?_eq_some_iff_firstReading.1 hfound⟩

end Registry

section Resolution

variable {registry : Registry} {id : String} {name : RuleName} {definition : RuleDefinition}

/-- **An identifier with slashes denotes its first reading.** -/
lemma resolve_of_slash_iff (hslash : '/' ∈ id.toList) :
    resolve (some registry) id = .ok (name, definition)
      ↔ registry.FirstReading id name.plugin name.rule definition := by
  rw [← mapError_eq_ok_iff (f := LookupFailure.kind), kind_resolve_of_slash hslash,
    ← Registry.findSome?_eq_some_iff_firstReading]
  cases (RuleId.splits id).findSome? registry.ruleOfSplit? with
  | none => simp
  | some found => simp

end Resolution

/-! ## Hidden rules -/

/-- A rule is hidden if another plugin, with a shorter name, has a rule with the same
identifier. -/
def Registry.Hidden (registry : Registry) (plugin rule : String) : Prop :=
  ∃ plugin' rule', plugin' ≠ "" ∧ plugin'.length < plugin.length
    ∧ (registry.rule? plugin' rule').isSome
    ∧ plugin' ++ "/" ++ rule' = plugin ++ "/" ++ rule

section Hidden

variable {registry : Registry} {plugin rule : String} {definition : RuleDefinition}

/-- The rule that hides another one is a reading of the identifier of both. -/
lemma hidden_iff :
    registry.Hidden plugin rule
      ↔ ∃ plugin' rule' definition',
          registry.Reads (plugin ++ "/" ++ rule) plugin' rule' definition'
            ∧ plugin'.length < plugin.length := by
  constructor
  · rintro ⟨plugin', rule', hplugin', hshorter, hrule, hjoined⟩
    obtain ⟨definition', hregistered⟩ := Option.isSome_iff_exists.1 hrule
    refine ⟨plugin', rule', definition', ⟨hjoined, hplugin', ?_, hregistered⟩, hshorter⟩
    -- what the plugin name lacks in length, the rule name has in addition
    rintro rfl
    have hlength := congrArg String.length hjoined
    simp only [String.length_append, String.length_empty] at hlength
    omega
  · rintro ⟨plugin', rule', definition', hreads, hshorter⟩
    refine ⟨plugin', rule', hreads.plugin_ne, hshorter, ?_, hreads.joined⟩
    rw [hreads.registered]
    rfl

/-- **The identifier of a registered rule denotes that rule, unless it is hidden**, and in any case
a rule with the same identifier and no longer plugin name. -/
lemma resolve_join (hplugin : plugin ≠ "") (hrule : rule ≠ "")
    (hregistered : registry.rule? plugin rule = some definition) :
    ∃ name found, resolve (some registry) (plugin ++ "/" ++ rule) = .ok (name, found)
      ∧ registry.rule? name.plugin name.rule = some found
      ∧ name.plugin ++ "/" ++ name.rule = plugin ++ "/" ++ rule
      ∧ name.plugin.length ≤ plugin.length
      ∧ (name = ⟨plugin, rule⟩ ↔ ¬ registry.Hidden plugin rule) := by
  have hreads : registry.Reads (plugin ++ "/" ++ rule) plugin rule definition :=
    ⟨rfl, hplugin, hrule, hregistered⟩
  obtain ⟨name, found, hfirst⟩ := hreads.exists_firstReading
  have hle : name.plugin.length ≤ plugin.length := hfirst.shortest _ _ _ hreads
  refine ⟨name, found, (resolve_of_slash_iff hreads.slash_mem).2 hfirst, hfirst.reads.registered,
    hfirst.reads.joined, hle, ?_⟩
  rw [hidden_iff]
  constructor
  · rintro rfl ⟨plugin', rule', definition', hreads', hshorter⟩
    have := hfirst.shortest _ _ _ hreads'
    exact absurd hshorter (not_lt.2 this)
  · intro hvisible
    have hnot : ¬ name.plugin.length < plugin.length :=
      fun hshorter => hvisible ⟨_, _, _, hfirst.reads, hshorter⟩
    obtain ⟨hsame, hsame'⟩ :=
      (RuleId.join_inj_of_length_eq (le_antisymm hle (not_lt.1 hnot))).1 hfirst.reads.joined
    rw [← hsame, ← hsame']

end Hidden

/-! ## One more plugin -/

/-- A registry, and what it is if one more plugin is registered under a new name, after some of the
others and before the rest. -/
structure Registry.Gains (registry : Registry) (name : String) (plugin : Plugin)
    (extended : Registry) : Prop where
  new : name ∉ registry.keys
  order : ∃ before after, registry = OrderedMap.ofList (before ++ after)
    ∧ extended = OrderedMap.ofList (before ++ (name, plugin) :: after)

/-- A reading that a plugin gives to an identifier when it is registered under a name. -/
structure Plugin.Reads (plugin : Plugin) (name id rule : String) (definition : RuleDefinition) :
    Prop where
  joined : name ++ "/" ++ rule = id
  name_ne : name ≠ ""
  rule_ne : rule ≠ ""
  registered : plugin.rule? rule = some definition

section Gains

variable {registry extended : Registry} {name id rule : String} {plugin : Plugin}
  {definition : RuleDefinition}

/-- A plugin can be registered under a new name at every place of the order. -/
lemma gains_ofList {before after : List (String × Plugin)}
    (hentries : registry.entries = before ++ after) (hnew : name ∉ registry.keys) :
    registry.Gains name plugin (OrderedMap.ofList (before ++ (name, plugin) :: after)) :=
  ⟨hnew, before, after, by rw [← hentries, OrderedMap.ofList_entries], rfl⟩

/-- Registering it now puts it behind all others. -/
lemma gains_insert (hnew : name ∉ registry.keys) :
    registry.Gains name plugin (registry.insert name plugin) := by
  have hgains : registry.Gains name plugin
      (OrderedMap.ofList (registry.entries ++ [(name, plugin)])) :=
    gains_ofList (List.append_nil registry.entries).symm hnew
  rwa [OrderedMap.ofList_append_singleton, OrderedMap.ofList_entries] at hgains

namespace Registry.Gains

lemma get?_eq (h : registry.Gains name plugin extended) (key : String) :
    extended.get? key = if name = key then some plugin else registry.get? key := by
  obtain ⟨before, after, rfl, rfl⟩ := h.order
  have hnew := h.new
  rw [OrderedMap.mem_keys_ofList, List.map_append, List.mem_append, not_or] at hnew
  exact OrderedMap.get?_ofList_insert hnew.2 key

/-- **The rules of the larger registry** are those of the smaller one and those of the plugin. -/
lemma rule?_eq (h : registry.Gains name plugin extended) (plugin' rule : String) :
    extended.rule? plugin' rule
      = if name = plugin' then plugin.rule? rule else registry.rule? plugin' rule := by
  rw [Registry.rule?, h.get?_eq]
  split_ifs
  · rfl
  · rfl

lemma plugin_ne (h : registry.Gains name plugin extended) {plugin' : String}
    (hregistered : registry.rule? plugin' rule = some definition) : name ≠ plugin' := by
  rintro rfl
  rw [Registry.rule?, (OrderedMap.get?_eq_none_iff _).2 h.new] at hregistered
  exact nomatch hregistered

/-- **The readings in the larger registry** are those in the smaller one and those of the
plugin. -/
lemma reads_iff (h : registry.Gains name plugin extended) {plugin' : String} :
    extended.Reads id plugin' rule definition
      ↔ registry.Reads id plugin' rule definition
        ∨ plugin' = name ∧ plugin.Reads name id rule definition := by
  constructor
  · rintro ⟨hjoined, hplugin, hrule, hregistered⟩
    rw [h.rule?_eq] at hregistered
    split_ifs at hregistered with hname
    · subst hname
      exact Or.inr ⟨rfl, hjoined, hplugin, hrule, hregistered⟩
    · exact Or.inl ⟨hjoined, hplugin, hrule, hregistered⟩
  · rintro (⟨hjoined, hplugin, hrule, hregistered⟩ | ⟨rfl, hjoined, hplugin, hrule, hregistered⟩)
    · refine ⟨hjoined, hplugin, hrule, ?_⟩
      rw [h.rule?_eq, if_neg (h.plugin_ne hregistered)]
      exact hregistered
    · refine ⟨hjoined, hplugin, hrule, ?_⟩
      rw [h.rule?_eq, if_pos rfl]
      exact hregistered

/-- A reading of the plugin comes first if its name is shorter than the plugin name of the reading
that came first so far. -/
lemma firstReading_own (h : registry.Gains name plugin extended) {plugin' rule' : String}
    {own : RuleDefinition} (hfirst : registry.FirstReading id plugin' rule' definition)
    (hown : plugin.Reads name id rule own) (hshorter : name.length < plugin'.length) :
    extended.FirstReading id name rule own := by
  refine ⟨h.reads_iff.2 (Or.inr ⟨rfl, hown⟩), fun other _ _ hreads => ?_⟩
  rcases h.reads_iff.1 hreads with hold | ⟨rfl, -⟩
  · exact hshorter.le.trans (hfirst.shortest _ _ _ hold)
  · exact le_rfl

/-- Otherwise the reading that came first still does. -/
lemma firstReading_kept (h : registry.Gains name plugin extended) {plugin' rule' : String}
    (hfirst : registry.FirstReading id plugin' rule' definition)
    (hnone : ¬ ∃ rule own, plugin.Reads name id rule own ∧ name.length < plugin'.length) :
    extended.FirstReading id plugin' rule' definition := by
  refine ⟨h.reads_iff.2 (Or.inl hfirst.reads), fun other rule own hreads => ?_⟩
  rcases h.reads_iff.1 hreads with hold | ⟨rfl, hown⟩
  · exact hfirst.shortest _ _ _ hold
  · exact not_lt.1 fun hshorter => hnone ⟨rule, own, hown, hshorter⟩

end Registry.Gains

/-- Whatever a plugin has a reading of holds a slash. -/
lemma Plugin.Reads.slash_mem (h : plugin.Reads name id rule definition) : '/' ∈ id.toList := by
  rw [← h.joined]
  simp

end Gains

/-- **Another plugin redirects an identifier only by a shorter prefix.**  Let a registry gain a
plugin under a new name, at any place of the order.

* An identifier that denotes a rule still denotes one.  It is a rule of the new plugin exactly if
  the identifier reads as one and the new name is shorter than the plugin name it had, and the same
  rule with the same definition otherwise.
* An identifier that denotes nothing comes to denote a rule of the new plugin, if any. -/
theorem resolve_of_gains {registry extended : Registry} {name : String} {plugin : Plugin}
    (h : registry.Gains name plugin extended) (id : String) :
    (∀ found definition, resolve (some registry) id = .ok (found, definition) →
        (∀ rule own, plugin.Reads name id rule own → name.length < found.plugin.length →
          resolve (some extended) id = .ok (⟨name, rule⟩, own))
        ∧ ((¬ ∃ rule own, plugin.Reads name id rule own ∧ name.length < found.plugin.length) →
          resolve (some extended) id = .ok (found, definition)))
      ∧ ∀ failure, resolve (some registry) id = .error failure →
          ∀ found definition, resolve (some extended) id = .ok (found, definition) →
            found.plugin = name ∧ plugin.rule? found.rule = some definition := by
  by_cases hslash : '/' ∈ id.toList
  · simp only [resolve_of_slash_iff hslash]
    refine ⟨fun found definition hfirst =>
        ⟨fun rule own hown hshorter => h.firstReading_own hfirst hown hshorter,
          fun hnone => h.firstReading_kept hfirst hnone⟩,
      fun failure hfailure found definition hfirst => ?_⟩
    rcases h.reads_iff.1 hfirst.reads with hold | ⟨hname, hown⟩
    · -- an identifier with an old reading would have been found before
      obtain ⟨found', definition', hfirst'⟩ := hold.exists_firstReading
      have hresolve := (resolve_of_slash_iff hslash).2 hfirst'
      exact nomatch hresolve.symm.trans hfailure
    · exact ⟨hname, hown.registered⟩
  · refine ⟨fun found definition hresolve => ?_,
      fun failure hfailure found definition hresolve => ?_⟩
    · have hid := ne_empty_of_resolve hresolve
      obtain ⟨rfl, hregistered⟩ := (resolve_of_bare_iff hid hslash).1 hresolve
      refine ⟨fun rule own hown => absurd hown.slash_mem hslash, fun _ => ?_⟩
      rw [resolve_of_bare_iff hid hslash, h.rule?_eq, if_neg (h.plugin_ne hregistered)]
      exact ⟨rfl, hregistered⟩
    · have hid := ne_empty_of_resolve hresolve
      obtain ⟨rfl, hregistered⟩ := (resolve_of_bare_iff hid hslash).1 hresolve
      rw [h.rule?_eq] at hregistered
      split_ifs at hregistered with hname
      · exact ⟨hname.symm, hregistered⟩
      · have hbefore := (resolve_of_bare_iff hid hslash).2 ⟨rfl, hregistered⟩
        exact nomatch hbefore.symm.trans hfailure

/-- A registry with one rule, whose identifier is `a/b/c`. -/
def innerRegistry : Registry :=
  OrderedMap.ofList [("a/b", ⟨⟨0⟩, none, .ofList [("c", ⟨⟨1⟩, .function⟩)]⟩)]

/-- A plugin that has a rule with this identifier too, if it is registered as `a`. -/
def outerPlugin : Plugin := ⟨⟨2⟩, none, .ofList [("b/c", ⟨⟨3⟩, .function⟩)]⟩

/-- There the new plugin takes the identifier over, although it is registered last. -/
theorem resolve_of_gains_outerPlugin :
    innerRegistry.Gains "a" outerPlugin (innerRegistry.insert "a" outerPlugin)
      ∧ resolve (some innerRegistry) "a/b/c" = .ok (⟨"a/b", "c"⟩, ⟨⟨1⟩, .function⟩)
      ∧ resolve (some (innerRegistry.insert "a" outerPlugin)) "a/b/c"
        = .ok (⟨"a", "b/c"⟩, ⟨⟨3⟩, .function⟩) := by
  have hgains : innerRegistry.Gains "a" outerPlugin (innerRegistry.insert "a" outerPlugin) :=
    gains_insert (by decide)
  have hbefore : resolve (some innerRegistry) "a/b/c"
      = .ok (⟨"a/b", "c"⟩, ⟨⟨1⟩, .function⟩) := rfl
  have hreads : outerPlugin.Reads "a" "a/b/c" "b/c" ⟨⟨3⟩, .function⟩ :=
    ⟨by decide, by decide, by decide, rfl⟩
  obtain ⟨hredirected, -⟩ := (resolve_of_gains hgains "a/b/c").1 _ _ hbefore
  exact ⟨hgains, hbefore, hredirected _ _ hreads (by decide)⟩

end LintConfig
