import Mathlib
import LintConfig.Plugin

/-!
# The identities of plugins and rules

`PluginDeclaration.number` gives a plugin and its rules the numbers from a given one on.  Nothing
else happens to the declaration: `Plugin.declaration` forgets the numbers, and what is left is what
was declared (`declaration_number`).

**Ranges.**  `Plugin.NumberedWithin` says between which numbers a plugin and its rules lie.  Two
plugins with ranges that do not meet are `Apart`: neither they nor any of their rules share a key
(`NumberedWithin.apart`).  Inside of one plugin no two rules share a key either (`DistinctRules`).
-/

namespace LintConfig

namespace PluginDeclaration

lemma mem_defineAll_bounds {next : Nat} {rules : List (String × RuleForm)} {name : String}
    {rule : RuleDefinition} (h : (name, rule) ∈ defineAll next rules) :
    next ≤ rule.key.index ∧ rule.key.index < next + rules.length := by
  induction rules generalizing next with
  | nil => exact absurd h List.not_mem_nil
  | cons first rest ih =>
      rw [List.length_cons]
      rcases List.mem_cons.1 h with heq | hrest
      · obtain ⟨-, rfl⟩ := Prod.mk.inj heq
        show next ≤ next ∧ next < _
        omega
      · have hbounds := ih hrest
        omega

/-- The numbers of rules that are defined together are all different. -/
lemma eq_of_mem_defineAll {next : Nat} {rules : List (String × RuleForm)}
    {name name' : String} {rule rule' : RuleDefinition}
    (h : (name, rule) ∈ defineAll next rules) (h' : (name', rule') ∈ defineAll next rules)
    (hkey : rule.key = rule'.key) : rule = rule' := by
  induction rules generalizing next with
  | nil => exact absurd h List.not_mem_nil
  | cons first rest ih =>
      -- the first number lies below all those of the rest
      have hlater : ∀ {name : String} {rule : RuleDefinition},
          (name, rule) ∈ defineAll (next + 1) rest → rule.key.index ≠ next := by
        intro name rule hrule
        have hbounds := mem_defineAll_bounds hrule
        omega
      rcases List.mem_cons.1 h with heq | hrest <;> rcases List.mem_cons.1 h' with heq' | hrest'
      · rw [(Prod.mk.inj heq).2, (Prod.mk.inj heq').2]
      · rw [(Prod.mk.inj heq).2] at hkey
        exact absurd (congrArg RuleKey.index hkey).symm (hlater hrest')
      · rw [(Prod.mk.inj heq').2] at hkey
        exact absurd (congrArg RuleKey.index hkey) (hlater hrest)
      · exact ih hrest hrest'

lemma map_form_defineAll (next : Nat) (rules : List (String × RuleForm)) :
    (defineAll next rules).map (fun e => (e.1, e.2.form)) = rules := by
  induction rules generalizing next with
  | nil => rfl
  | cons first rest ih => rw [defineAll, List.map_cons, ih]

end PluginDeclaration

namespace Plugin

/-- What a plugin declares, without the identities of the plugin and its rules. -/
def declaration (p : Plugin) : PluginDeclaration := ⟨p.info, p.rules.mapValues RuleDefinition.form⟩

lemma declaration_number (d : PluginDeclaration) (next : Nat) :
    (d.number next).declaration = d := by
  obtain ⟨info, ⟨entries, hnodup⟩⟩ := d
  simp only [declaration, PluginDeclaration.number, OrderedMap.mapValues,
    PluginDeclaration.map_form_defineAll]

/-- The rules of a plugin have the names that it declares. -/
lemma keys_declaration (p : Plugin) : p.declaration.rules.keys = p.rules.keys := by
  simp only [declaration, OrderedMap.keys, OrderedMap.mapValues, List.map_map, Function.comp_def]

/-! ## Ranges of numbers -/

/-- The numbers of a plugin and of its rules are all from `first` on and before `next`. -/
structure NumberedWithin (p : Plugin) (first next : Nat) : Prop where
  key : first ≤ p.key.index ∧ p.key.index < next
  rules : ∀ name rule, p.rule? name = some rule → first ≤ rule.key.index ∧ rule.key.index < next

/-- Two plugins that share no identity, neither their own nor that of a rule. -/
structure Apart (p q : Plugin) : Prop where
  key : p.key ≠ q.key
  rules : ∀ name rule name' rule', p.rule? name = some rule → q.rule? name' = some rule' →
    rule.key ≠ rule'.key

/-- A plugin in which a key belongs to one rule. -/
def DistinctRules (p : Plugin) : Prop :=
  ∀ name rule name' rule', p.rule? name = some rule → p.rule? name' = some rule' →
    rule.key = rule'.key → rule = rule'

section Ranges

variable {p q : Plugin} {first middle next : Nat}

lemma numberedWithin_number (d : PluginDeclaration) (next : Nat) :
    (d.number next).NumberedWithin next (next + 1 + d.rules.size) where
  key := by
    show next ≤ next ∧ next < _
    omega
  rules name rule hrule := by
    have hbounds := PluginDeclaration.mem_defineAll_bounds ((OrderedMap.get?_eq_some_iff _).1 hrule)
    rw [OrderedMap.size]
    omega

lemma distinctRules_number (d : PluginDeclaration) (next : Nat) :
    (d.number next).DistinctRules := by
  intro name rule name' rule' hrule hrule' hkey
  exact PluginDeclaration.eq_of_mem_defineAll ((OrderedMap.get?_eq_some_iff _).1 hrule)
    ((OrderedMap.get?_eq_some_iff _).1 hrule') hkey

lemma NumberedWithin.mono (h : p.NumberedWithin first next) {first' next' : Nat}
    (hfirst : first' ≤ first) (hnext : next ≤ next') : p.NumberedWithin first' next' where
  key := by
    have hkey := h.key
    omega
  rules name rule hrule := by
    have hbounds := h.rules name rule hrule
    omega

/-- Plugins whose ranges do not meet share no identity. -/
lemma NumberedWithin.apart (hp : p.NumberedWithin first middle)
    (hq : q.NumberedWithin middle next) : p.Apart q where
  key heq := by
    have hlow := hp.key.2
    have hhigh := hq.key.1
    rw [heq] at hlow
    omega
  rules name rule name' rule' hrule hrule' heq := by
    have hlow := (hp.rules name rule hrule).2
    have hhigh := (hq.rules name' rule' hrule').1
    rw [heq] at hlow
    omega

lemma Apart.symm (h : p.Apart q) : q.Apart p where
  key heq := h.key heq.symm
  rules name rule name' rule' hrule hrule' heq :=
    h.rules name' rule' name rule hrule' hrule heq.symm

end Ranges

end Plugin

end LintConfig
