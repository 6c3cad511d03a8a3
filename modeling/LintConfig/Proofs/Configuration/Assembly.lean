import Mathlib
import LintConfig.Configuration
import LintConfig.Proofs.Command.Listing
import LintConfig.Proofs.Registration
import LintConfig.Proofs.Rule.Explanation

/-!
# Building registries, plugins and configurations

Plugins, their rules and the entries of a configuration are inserted one after the other, by names
that may be repeated.  `OrderedMap.Keeps` says what is left of such insertions: each name once, at
the place of its first insertion, with the value of its last one, for iterating as for looking up.

**Steps.**  A configuration is built in steps that add a rule or a plugin (`Configuration.Step`), in
any order.  Its rules are those of the rule steps and its registry is that of the plugin steps
(`rules_ofSteps`, `plugins_ofSteps`), so neither kind gets in the way of the other.

**Views.**  Resolution looks rules up, the search for partial matches and the list of rules iterate.
`registration_keeps` ends with what ties the three together: they see the same rules.
-/

namespace LintConfig

namespace OrderedMap

variable {β : Type} {insertions : List (String × β)} {m : OrderedMap String β}

/-- The last of some insertions under a name. -/
def LastInserted (insertions : List (String × β)) (name : String) (v : β) : Prop :=
  ∃ before later, insertions = before ++ (name, v) :: later ∧ name ∉ later.map Prod.fst

/-- What a map holds after some insertions into an empty one. -/
structure Keeps (insertions : List (String × β)) (m : OrderedMap String β) : Prop where
  /-- Iterating lists every name once, in the order of the first insertions. -/
  listsOnce : ListsOnce (insertions.map Prod.fst) m.keys
  /-- It lists the value of the last insertion. -/
  mem_entries_iff : ∀ name v, (name, v) ∈ m.entries ↔ LastInserted insertions name v
  /-- Looking up finds the same value. -/
  get?_eq_some_iff : ∀ name v, m.get? name = some v ↔ LastInserted insertions name v
  /-- Nothing is found under other names. -/
  get?_eq_none_iff : ∀ name, m.get? name = none ↔ name ∉ insertions.map Prod.fst
  /-- There are as many entries as names. -/
  size_eq : m.size = (insertions.map Prod.fst).toFinset.card

lemma firstAppearances_eq_eraseDups (texts : List String) :
    firstAppearances texts = texts.eraseDups := by
  induction texts using List.reverseRecOn with
  | nil => rfl
  | append_singleton texts text ih =>
      rw [firstAppearances_append_singleton, ih, eraseDups_append_singleton]

/-- A name that is inserted again keeps its place. -/
lemma listsOnce_keys_ofList (insertions : List (String × β)) :
    ListsOnce (insertions.map Prod.fst) (ofList insertions).keys := by
  rw [keys_ofList, ← firstAppearances_eq_eraseDups]
  exact listsOnce_firstAppearances _

/-- A map that lists the names once has as many entries as there are names. -/
lemma size_eq_card (h : ListsOnce (insertions.map Prod.fst) m.keys) :
    m.size = (insertions.map Prod.fst).toFinset.card := by
  have hsame : (insertions.map Prod.fst).toFinset = m.keys.toFinset := by
    ext name
    rw [List.mem_toFinset, List.mem_toFinset, h.mem_iff]
  rw [hsame, List.toFinset_card_of_nodup h.nodup, keys, List.length_map, size]

/-- **Insertions one after the other are kept.** -/
theorem keeps_ofList (insertions : List (String × β)) : Keeps insertions (ofList insertions) where
  listsOnce := listsOnce_keys_ofList insertions
  mem_entries_iff name v := by
    rw [← OrderedMap.get?_eq_some_iff, get?_ofList_eq_some_iff, LastInserted]
  get?_eq_some_iff name v := get?_ofList_eq_some_iff
  get?_eq_none_iff name := by
    rw [OrderedMap.get?_eq_none_iff, mem_keys_ofList]
  size_eq := size_eq_card (listsOnce_keys_ofList insertions)

end OrderedMap

/-- Adding rules to a plugin changes nothing else about it. -/
lemma Plugin.foldl_withRule (plugin : Plugin) (rules : List (String × RuleDefinition)) :
    rules.foldl (fun p r => p.withRule r.1 r.2) plugin
      = { plugin with rules := rules.foldl (fun m r => m.insert r.1 r.2) plugin.rules } := by
  induction rules generalizing plugin with
  | nil => rfl
  | cons rule rest ih => rw [List.foldl_cons, ih, List.foldl_cons]; rfl

/-! ## Steps -/

namespace Configuration

/-- One step of building a configuration. -/
inductive Step where
  /-- Registers a plugin under a name. -/
  | plugin (name : String) (plugin : Plugin)
  /-- Configures a rule. -/
  | rule (id : String) (entry : RuleEntry)

namespace Step

/-- What a step registers. -/
def plugin? : Step → Option (String × Plugin)
  | plugin name p => some (name, p)
  | rule _ _ => none

/-- What a step configures. -/
def rule? : Step → Option (String × RuleEntry)
  | plugin _ _ => none
  | rule id entry => some (id, entry)

end Step

/-- The configuration after a step. -/
def apply (c : Configuration) : Step → Configuration
  | .plugin name plugin => c.withPlugin name plugin
  | .rule id entry => c.withRule id entry

/-- The configuration that is built by some steps from an empty one. -/
def ofSteps (steps : List Step) : Configuration := steps.foldl apply {}

lemma ofSteps_append_singleton (steps : List Step) (last : Step) :
    ofSteps (steps ++ [last]) = (ofSteps steps).apply last := by
  rw [ofSteps, List.foldl_append]
  rfl

/-- The rules are those that were configured, whatever was registered between them. -/
lemma rules_ofSteps (steps : List Step) :
    (ofSteps steps).rules = .ofList (steps.filterMap Step.rule?) := by
  induction steps using List.reverseRecOn with
  | nil => rfl
  | append_singleton steps last ih =>
      rw [ofSteps_append_singleton, List.filterMap_append]
      cases last with
      | plugin name plugin =>
          have hnone : [Step.plugin name plugin].filterMap Step.rule? = [] := rfl
          rw [hnone, List.append_nil, ← ih]
          rfl
      | rule id entry =>
          have hsome : [Step.rule id entry].filterMap Step.rule? = [(id, entry)] := rfl
          rw [hsome, OrderedMap.ofList_append_singleton, ← ih]
          rfl

/-- The registry holds the plugins that were registered.  There is none before the first. -/
lemma plugins_ofSteps (steps : List Step) :
    (ofSteps steps).plugins
      = if steps.filterMap Step.plugin? = [] then none
        else some (.ofList (steps.filterMap Step.plugin?)) := by
  induction steps using List.reverseRecOn with
  | nil => rfl
  | append_singleton steps last ih =>
      rw [ofSteps_append_singleton, List.filterMap_append]
      cases last with
      | plugin name plugin =>
          have hsome : [Step.plugin name plugin].filterMap Step.plugin? = [(name, plugin)] := rfl
          have hregistry : (ofSteps steps).plugins.getD ∅
              = .ofList (steps.filterMap Step.plugin?) := by
            rw [ih]
            split_ifs with hfirst
            · rw [hfirst]
              rfl
            · rfl
          rw [hsome, if_neg (by simp), OrderedMap.ofList_append_singleton, ← hregistry]
          rfl
      | rule id entry =>
          have hnone : [Step.rule id entry].filterMap Step.plugin? = [] := rfl
          rw [hnone, List.append_nil, ← ih]
          rfl

end Configuration

/-! ## What looks rules up and what lists them -/

section Views

variable {registry : Registry} {id plugin rule : String} {name : RuleName}
  {definition : RuleDefinition}

/-- What resolution finds is listed. -/
lemma mem_listed_of_resolve (h : resolve (some registry) id = .ok (name, definition)) :
    (name, definition) ∈ Listing.listed registry := by
  obtain ⟨plugins, hplugins, hrule⟩ := rule?_of_resolve h
  obtain rfl := Option.some.inj hplugins
  exact Listing.mem_listed_iff.2 hrule

/-- The search for partial matches finds what is listed under the searched names. -/
lemma mem_matchingRules_iff_listed :
    (plugin, rule) ∈ matchingRules registry id
      ↔ rule ∈ searchedNames id
        ∧ ∃ definition, (⟨plugin, rule⟩, definition) ∈ Listing.listed registry := by
  simp only [Listing.mem_listed_iff, ← Option.isSome_iff_exists, isSome_rule?_iff]
  rw [mem_matchingRules_iff, mem_searchedNames_iff]
  constructor
  · rintro ⟨hne, hsearched, hregistered⟩
    exact ⟨⟨hsearched, hne⟩, hregistered⟩
  · rintro ⟨⟨hsearched, hne⟩, hregistered⟩
    exact ⟨hne, hsearched, hregistered⟩

/-- Resolution finds rules by one of the searched names. -/
lemma rule_mem_searchedNames_of_resolve
    (h : resolve (some registry) id = .ok (name, definition)) : name.rule ∈ searchedNames id := by
  have hdenotes := denotes_kind_resolve (some registry) id
  rw [h] at hdenotes
  rw [mem_searchedNames_iff]
  cases hdenotes with
  | builtin hne _ _ => exact ⟨Or.inl rfl, hne⟩
  | shortest hreads _ => exact ⟨Or.inr ⟨_, hreads.joined⟩, hreads.rule_ne⟩

end Views

/-- **Insertions lose nothing and reorder nothing.**

* A registry keeps the plugins that were registered one after the other, and a plugin the rules that
  were added to it.
* A configuration that is built in steps keeps the rules of the rule steps, and its registry the
  plugins of the plugin steps.  There is a registry as soon as there is one of the latter.
* Looking rules up and listing them agree on every registry.  What resolution finds is both listed
  and searched for, what is listed can be resolved, and the search for partial matches finds the
  listed rules that have one of the searched names. -/
theorem registration_keeps :
    (∀ plugins : List (String × Plugin),
        OrderedMap.Keeps plugins (plugins.foldl (fun r p => r.insert p.1 p.2) (∅ : Registry)))
      ∧ (∀ key info (rules : List (String × RuleDefinition)),
          OrderedMap.Keeps rules
            (rules.foldl (fun p r => p.withRule r.1 r.2) (⟨key, info, ∅⟩ : Plugin)).rules)
      ∧ (∀ steps : List Configuration.Step,
          OrderedMap.Keeps (steps.filterMap Configuration.Step.rule?)
              (Configuration.ofSteps steps).rules
            ∧ ((Configuration.ofSteps steps).plugins = none
                ↔ steps.filterMap Configuration.Step.plugin? = [])
            ∧ ∀ registry, (Configuration.ofSteps steps).plugins = some registry →
                OrderedMap.Keeps (steps.filterMap Configuration.Step.plugin?) registry)
      ∧ ∀ registry : Registry,
          (∀ name definition, registry.rule? name.plugin name.rule = some definition
              ↔ (name, definition) ∈ Listing.listed registry)
            ∧ Listing.text registry
                = Listing.heading ++ String.join ((Listing.listed registry).map Listing.line)
                  ++ Listing.footer
            ∧ (∀ id name definition, resolve (some registry) id = .ok (name, definition) →
                (name, definition) ∈ Listing.listed registry
                  ∧ (name.plugin, name.rule) ∈ matchingRules registry id)
            ∧ (∀ listed ∈ Listing.listed registry, listed.1.plugin ≠ "" → listed.1.rule ≠ "" →
                registry.Resolves (listed.1.plugin ++ "/" ++ listed.1.rule))
            ∧ ∀ id, partialMatches registry id
                  = (matchingRules registry id).map (fun m => m.1 ++ "/" ++ m.2)
                ∧ ∀ plugin rule, (plugin, rule) ∈ matchingRules registry id
                    ↔ rule ∈ searchedNames id
                      ∧ ∃ definition, (⟨plugin, rule⟩, definition) ∈ Listing.listed registry := by
  refine ⟨OrderedMap.keeps_ofList, fun key info rules => ?_, fun steps => ⟨?_, ?_, ?_⟩,
    fun registry => ⟨fun name definition => Listing.mem_listed_iff.symm, Listing.text_eq registry,
      fun id name definition hresolve => ?_, fun listed hlisted hplugin hrule => ?_,
      fun id => ⟨partialMatches_eq_map, fun plugin rule => mem_matchingRules_iff_listed⟩⟩⟩
  · rw [Plugin.foldl_withRule]
    exact OrderedMap.keeps_ofList rules
  · rw [Configuration.rules_ofSteps]
    exact OrderedMap.keeps_ofList _
  · rw [Configuration.plugins_ofSteps]
    simp
  · intro registry hregistry
    rw [Configuration.plugins_ofSteps, Option.ite_none_left_eq_some] at hregistry
    obtain ⟨-, hregistry⟩ := hregistry
    rw [← Option.some.inj hregistry]
    exact OrderedMap.keeps_ofList _
  · have hlisted := mem_listed_of_resolve hresolve
    exact ⟨hlisted, mem_matchingRules_iff_listed.2
      ⟨rule_mem_searchedNames_of_resolve hresolve, definition, hlisted⟩⟩
  · have hregistered := Option.isSome_iff_exists.2 ⟨listed.2, Listing.mem_listed_iff.1 hlisted⟩
    exact resolves_join hplugin hrule hregistered

/-- A plugin with a rule `b`. -/
def laterPlugin : Plugin := ⟨⟨1⟩, none, .ofList [("b", ⟨⟨2⟩, .function⟩)]⟩

/-- Steps that replace a plugin without rules and the entry of a rule. -/
def replacingSteps : List Configuration.Step :=
  [.rule "x/b" [2], .plugin "x" ⟨⟨0⟩, none, ∅⟩, .rule "a" [1], .plugin "x" laterPlugin,
    .rule "x/b" []]

/-- The replaced entry keeps its place, and the rule of the new plugin is looked up, listed and
searched for. -/
theorem registration_keeps_replaced :
    (Configuration.ofSteps replacingSteps).rules.keys = ["x/b", "a"]
      ∧ (Configuration.ofSteps replacingSteps).rules.get? "x/b" = some []
      ∧ ∃ registry, (Configuration.ofSteps replacingSteps).plugins = some registry
          ∧ registry.size = 1
          ∧ resolve (some registry) "x/b" = .ok (⟨"x", "b"⟩, ⟨⟨2⟩, .function⟩)
          ∧ (⟨"x", "b"⟩, ⟨⟨2⟩, .function⟩) ∈ Listing.listed registry
          ∧ ("x", "b") ∈ matchingRules registry "x/b" := by
  obtain ⟨-, -, hsteps, hviews⟩ := registration_keeps
  obtain ⟨hrules, -, hplugins⟩ := hsteps replacingSteps
  have hregistry : (Configuration.ofSteps replacingSteps).plugins
      = some (.ofList [("x", laterPlugin)]) := rfl
  have hkept := hplugins _ hregistry
  have hresolve : resolve (some (.ofList [("x", laterPlugin)])) "x/b"
      = .ok (⟨"x", "b"⟩, ⟨⟨2⟩, .function⟩) := rfl
  obtain ⟨-, -, hfound, -⟩ := hviews (.ofList [("x", laterPlugin)])
  obtain ⟨hlisted, hmatched⟩ := hfound _ _ _ hresolve
  have hlast : OrderedMap.LastInserted (replacingSteps.filterMap Configuration.Step.rule?)
      "x/b" [] := ⟨[("x/b", [2]), ("a", [1])], [], rfl, List.not_mem_nil⟩
  have hsize : ((replacingSteps.filterMap Configuration.Step.plugin?).map
      Prod.fst).toFinset.card = 1 := by decide
  exact ⟨by decide, (hrules.get?_eq_some_iff _ _).2 hlast, _, hregistry,
    hkept.size_eq.trans hsize, hresolve, hlisted, hmatched⟩

end LintConfig
