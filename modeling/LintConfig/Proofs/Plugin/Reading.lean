import Mathlib
import LintConfig.Proofs.Json.Reader
import LintConfig.Proofs.Plugin.Identity
import LintConfig.Proofs.Plugin.Shape
import LintConfig.Proofs.Registration

/-!
# What a manifest is read as

**Texts.**  `Manifest.Declares` puts the grammar and the shape together: a text is written by one
document at most, and a document of the shape says one thing at most (`Declares.unique`).

**Verdicts.**  `parse_verdict`: a text that declares nothing is malformed, one that declares a rule
without a name is refused for that, and any other gives a plugin.  The shape of the whole text
comes first, so an empty name is never reported of a text that is malformed elsewhere.

**Plugins.**  `Binds` says what a plugin keeps of the rules that were listed: the names in the order
of their first appearances, each with the form that it was given last.
-/

namespace LintConfig

namespace Manifest

/-- A text that declares a plugin, with what it says about it and the rules that it lists. -/
def Declares (text : String) (info : Option PluginMeta) (rules : List (String × RuleForm)) : Prop :=
  ∃ d, Grammar.Text d text ∧ IsManifest d info rules

/-- What a plugin keeps of a list of rules. -/
structure Binds (rules : List (String × RuleForm)) (plugin : Plugin) : Prop where
  keys : plugin.rules.keys = (rules.map Prod.fst).eraseDups
  nodup : plugin.rules.keys.Nodup
  nonempty : "" ∉ plugin.rules.keys
  form : ∀ name form, (plugin.rule? name).map RuleDefinition.form = some form
    ↔ ∃ before later, rules = before ++ (name, form) :: later ∧ name ∉ later.map Prod.fst

section Reading

variable {text : String} {info : Option PluginMeta} {rules : List (String × RuleForm)}

lemma declares_iff :
    Declares text info rules ↔ (Document.read? text).bind shape? = some (info, rules) := by
  simp only [Declares, Option.bind_eq_some_iff, Grammar.read?_eq_some_iff, shape?_eq_some_iff]

/-- A text declares one thing at most. -/
lemma Declares.unique {info' : Option PluginMeta} {rules' : List (String × RuleForm)}
    (h : Declares text info rules) (h' : Declares text info' rules') :
    info = info' ∧ rules = rules' :=
  Prod.mk.inj (Option.some.inj ((declares_iff.1 h).symm.trans (declares_iff.1 h')))

lemma parse_of_declares (h : Declares text info rules) :
    parse text = if "" ∈ rules.map Prod.fst then .error .emptyRuleName
      else .ok { info, rules := .ofList rules } := by
  have hempty : rules.any (fun r => r.1 = "") = decide ("" ∈ rules.map Prod.fst) := by
    rw [Bool.eq_iff_iff, List.any_eq_true, decide_eq_true_iff, List.mem_map]
    simp only [decide_eq_true_eq]
  rw [parse, declares_iff.1 h]
  simp only [hempty, decide_eq_true_eq]

lemma parse_of_not_declares (h : ¬ ∃ info rules, Declares text info rules) :
    parse text = .error .malformed := by
  have hnone : (Document.read? text).bind shape? = none := by
    rw [Option.eq_none_iff_forall_ne_some]
    rintro ⟨info, rules⟩ hsome
    exact h ⟨info, rules, declares_iff.2 hsome⟩
  rw [parse, hnone]

/-- A plugin that is built from listed rules binds them. -/
lemma binds_build (hempty : "" ∉ rules.map Prod.fst) (next : ℕ) :
    Binds rules (PluginDeclaration.build { info, rules := .ofList rules } next).1 := by
  have hplugin : (PluginDeclaration.number { info, rules := .ofList rules } next).declaration
      = { info, rules := .ofList rules } := Plugin.declaration_number _ next
  have hkeys : (PluginDeclaration.number { info, rules := .ofList rules } next).rules.keys
      = (rules.map Prod.fst).eraseDups := by
    rw [← Plugin.keys_declaration, hplugin, OrderedMap.keys_ofList]
  refine { keys := hkeys, nodup := OrderedMap.nodup _, nonempty := ?_, form := ?_ }
  · show "" ∉ (PluginDeclaration.number { info, rules := .ofList rules } next).rules.keys
    rwa [hkeys, List.mem_eraseDups]
  · intro name form
    rw [← OrderedMap.get?_ofList_eq_some_iff, Plugin.rule?, ← OrderedMap.get?_mapValues]
    exact iff_of_eq (congrArg (fun d => d.rules.get? name = some form) hplugin)

end Reading

/-- **Manifests are accepted exactly, and nothing of them is lost.**

* A text is malformed exactly if it declares no plugin.
* An empty rule name is reported exactly if the text declares a plugin and lists such a name.
* Every other text gives a plugin with the declared information that binds the listed rules. -/
theorem parse_verdict (text : String) :
    (parse text = .error .malformed ↔ ¬ ∃ info rules, Declares text info rules)
      ∧ (parse text = .error .emptyRuleName
        ↔ ∃ info rules, Declares text info rules ∧ "" ∈ rules.map Prod.fst)
      ∧ ∀ info rules, Declares text info rules → "" ∉ rules.map Prod.fst →
          ∃ declaration, parse text = .ok declaration ∧
            ∀ next, (declaration.build next).1.info = info
              ∧ Binds rules (declaration.build next).1 := by
  by_cases h : ∃ info rules, Declares text info rules
  · obtain ⟨info, rules, hdeclares⟩ := h
    have hunique : ∀ info' rules', Declares text info' rules' → info' = info ∧ rules' = rules :=
      fun info' rules' h' => h'.unique hdeclares
    rw [parse_of_declares hdeclares]
    refine ⟨⟨fun h => ?_, fun h => absurd ⟨info, rules, hdeclares⟩ h⟩, ⟨fun h => ?_, ?_⟩, ?_⟩
    · split_ifs at h
      exact nomatch Except.error.inj h
    · split_ifs at h with hempty
      exact ⟨info, rules, hdeclares, hempty⟩
    · rintro ⟨info', rules', h', hempty⟩
      obtain ⟨rfl, rfl⟩ := hunique info' rules' h'
      rw [if_pos hempty]
    · intro info' rules' h' hempty
      obtain ⟨rfl, rfl⟩ := hunique info' rules' h'
      exact ⟨_, if_neg hempty, fun next => ⟨rfl, binds_build hempty next⟩⟩
  · rw [parse_of_not_declares h]
    refine ⟨⟨fun _ => h, fun _ => rfl⟩, ⟨fun herror => (nomatch herror), ?_⟩, ?_⟩
    · rintro ⟨info, rules, hdeclares, -⟩
      exact absurd ⟨info, rules, hdeclares⟩ h
    · intro info rules hdeclares
      exact absurd ⟨info, rules, hdeclares⟩ h

/-- Three rules, two of them under one name. -/
def repeatedRule : String :=
  "\x7b\"rules\":\x7b\"a\":\"function\",\"b\":\x7b\"create\":true\x7d,\"a\":\x7b\x7d\x7d\x7d"

/-- The plugin has two of them, the repeated one at its first place. -/
theorem parse_verdict_repeatedRule :
    ∃ info rules, Declares repeatedRule info rules ∧ rules.map Prod.fst = ["a", "b", "a"]
      ∧ ∃ declaration, parse repeatedRule = .ok declaration
        ∧ (declaration.build 0).1.rules.keys = ["a", "b"] := by
  have hread : ((Document.read? repeatedRule).bind shape?).map (fun found =>
      found.2.map Prod.fst) = some ["a", "b", "a"] := by decide +kernel
  obtain ⟨⟨info, rules⟩, hshape, hnames⟩ := Option.map_eq_some_iff.1 hread
  have hdeclares : Declares repeatedRule info rules := declares_iff.2 hshape
  have hnonempty : "" ∉ rules.map Prod.fst := by
    rw [hnames]
    decide
  obtain ⟨declaration, hparse, hbuild⟩ :=
    (parse_verdict repeatedRule).2.2 info rules hdeclares hnonempty
  refine ⟨info, rules, hdeclares, hnames, declaration, hparse, ?_⟩
  rw [(hbuild 0).2.keys, hnames]
  decide

/-- A name that is written without escapes. -/
def plainName (name : String) : List TextUnit := name.toList.map TextUnit.char

/-- A manifest with one rule object, in which a number stands under a name that is not known. -/
def noted (l : NumberLiteral) : Document :=
  .obj [(plainName "rules", .obj [(plainName "x", .obj [(plainName "note", .num l)])])]

/-- Its text. -/
def notedText (number : String) : String :=
  "\x7b\"rules\":\x7b\"x\":\x7b\"note\":" ++ number ++ "\x7d\x7d\x7d"

/-- A number that is too large for a double. -/
def hugeNumber : NumberLiteral := ⟨false, [1], none, some 400⟩

/-- The three names and the number of such a manifest: documents have no decidable equality. -/
def notes? : Document → Option (List (List TextUnit) × NumberLiteral)
  | .obj [(rules, .obj [(x, .obj [(note, .num l)])])] => some ([rules, x, note], l)
  | _ => none

lemma eq_noted_of_notes? {d : Document} {l : NumberLiteral}
    (h : notes? d = some ([plainName "rules", plainName "x", plainName "note"], l)) :
    d = noted l := by
  unfold notes? at h
  split at h
  · obtain ⟨hnames, rfl⟩ := Prod.mk.inj (Option.some.inj h)
    simp only [List.cons.injEq, and_true] at hnames
    obtain ⟨rfl, rfl, rfl⟩ := hnames
    rfl
  · cases h

lemma text_hugeNumber : Grammar.Text (noted hugeNumber) (notedText "1e400") := by
  have hnotes : (Document.read? (notedText "1e400")).bind notes?
      = some ([plainName "rules", plainName "x", plainName "note"], hugeNumber) := by
    decide +kernel
  obtain ⟨d, hread, hd⟩ := Option.bind_eq_some_iff.1 hnotes
  rw [eq_noted_of_notes? hd] at hread
  exact Grammar.read?_eq_some_iff.1 hread

/-- **The grammar and the records are not enough.**  A number that no double can hold makes a
manifest malformed, even where a smaller one would not have mattered. -/
theorem parse_hugeNumber :
    Grammar.Text (noted hugeNumber) (notedText "1e400")
      ∧ parse (notedText "1e400") = .error .malformed
      ∧ ∃ declaration, parse (notedText "1e300") = .ok declaration := by
  have hnone : ((Document.read? (notedText "1e400")).bind shape?).isNone = true := by
    decide +kernel
  have hok : (parse (notedText "1e300")).isOk = true := by decide +kernel
  refine ⟨text_hugeNumber, by rw [parse, Option.isNone_iff_eq_none.1 hnone], ?_⟩
  cases hparse : parse (notedText "1e300") with
  | error error =>
      rw [hparse] at hok
      exact nomatch hok
  | ok declaration => exact ⟨declaration, rfl⟩

end Manifest

end LintConfig
