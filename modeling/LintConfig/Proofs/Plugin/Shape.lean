import Mathlib
import LintConfig.Proofs.Plugin.Record
import LintConfig.Proofs.Schema.Members

/-!
# The shape of a manifest

What a document has to be to declare a plugin, record by record, and what it declares.

**Rules.**  `IsDocs`, `IsInfo` and `IsDeclaration` are the records of a rule.  `IsRule` has the two
forms of a rule: only the word and the object with nothing but that word are a function, though the
latter would also be a record without any known member.

**Manifests.**  The value of a rule must be within the limits of values, which are its depth, the
range of its numbers and the pairing of its surrogates.  What stands under other names in the two
outer records is not interpreted, so it only has to be a document.

`shape?_eq_some_iff` is that the reader finds these shapes.
-/

namespace LintConfig

namespace Manifest

/-! ## Rules -/

/-- A string. -/
def IsString (v : Json) (s : String) : Prop := v = .str s

/-- A truth value. -/
def IsBool (v : Json) (b : Bool) : Prop := v = .bool b

/-- A list of strings. -/
def IsStrings (v : Json) (ss : List String) : Prop := v = .arr (ss.map .str)

/-- A schema, which is any value, with its objects as maps. -/
def IsSchema (v schema : Json) : Prop := schema = v.sort

/-- A documentation block. -/
def IsDocs (v : Json) (docs : RuleDocs) : Prop :=
  ∃ fields, Record.IsRecord ["description"] v fields
    ∧ Record.IsOptional .null IsString (fields "description") docs.description

/-- What the members of an information block say. -/
structure InfoFields (fields : String → Option Json) (info : RuleMeta) : Prop where
  schema : Record.IsOptional .null IsSchema (fields "schema") info.schema
  deprecated : Record.IsDefaulted false IsBool (fields "deprecated") info.deprecated
  replacedBy : Record.IsDefaulted [] IsStrings (fields "replacedBy") info.replacedBy
  docs : Record.IsOptional .null IsDocs (fields "docs") info.docs

/-- An information block. -/
def IsInfo (v : Json) (info : RuleMeta) : Prop :=
  ∃ fields, Record.IsRecord ["schema", "deprecated", "replacedBy", "docs"] v fields
    ∧ InfoFields fields info

/-- What the members of a rule object say. -/
structure DeclarationFields (fields : String → Option Json) (declaration : RuleDeclaration) :
    Prop where
  create : Record.IsDefaulted false IsBool (fields "create") declaration.create
  schema : Record.IsOptional .null IsSchema (fields "schema") declaration.schema
  info : Record.IsOptional .null IsInfo (fields "meta") declaration.info

/-- A rule object. -/
def IsDeclaration (v : Json) (declaration : RuleDeclaration) : Prop :=
  ∃ fields, Record.IsRecord ["create", "schema", "meta"] v fields
    ∧ DeclarationFields fields declaration

/-- A rule in one of its forms. -/
inductive IsRule : Json → RuleForm → Prop where
  | word : IsRule (.str "function") .function
  | marker : IsRule (.obj [("function", .null)]) .function
  | object {v : Json} {declaration : RuleDeclaration} :
      v ≠ .obj [("function", .null)] → IsDeclaration v declaration → IsRule v (.object declaration)

/-! ## Plugins -/

/-- A value within the limits: at most 125 levels, as the manifest itself opens two. -/
def IsWithin (d : Document) (v : Json) : Prop := d.Denotes v ∧ d.depth ≤ 125

/-- The rules of a plugin in the order of the text, repeated names included. -/
inductive IsRules : Document → List (String × RuleForm) → Prop where
  | mk {members : List (List TextUnit × Document)} {named : List (String × Document)}
      {rules : List (String × RuleForm)} :
      Record.NamedAs members named →
      List.Forall₂ (fun n r => n.1 = r.1 ∧ ∃ v, IsWithin n.2 v ∧ IsRule v r.2) named rules →
      IsRules (.obj members) rules

/-- A string that is written. -/
inductive IsText : Document → String → Prop where
  | mk {us : List TextUnit} {s : String} : TextUnit.Spells us s.toList → IsText (.str us) s

/-- What a plugin says about itself. -/
def IsPluginInfo (d : Document) (info : PluginMeta) : Prop :=
  ∃ fields, Record.IsDocumentRecord ["name", "version"] d fields
    ∧ Record.IsOptional .null IsText (fields "name") info.name
    ∧ Record.IsOptional .null IsText (fields "version") info.version

/-- A manifest, with what it says about the plugin and the rules that it lists. -/
def IsManifest (d : Document) (info : Option PluginMeta) (rules : List (String × RuleForm)) :
    Prop :=
  ∃ fields, Record.IsDocumentRecord ["meta", "rules"] d fields
    ∧ Record.IsOptional .null IsPluginInfo (fields "meta") info
    ∧ Record.IsDefaulted [] IsRules (fields "rules") rules

/-! ## Reading rules -/

section Rules

variable {v : Json} {members : List (String × Json)} {name : String}

lemma string?_eq_some_iff {s : String} : string? v = some s ↔ IsString v s := by
  cases v <;> simp [string?, IsString]

lemma bool?_eq_some_iff {b : Bool} : bool? v = some b ↔ IsBool v b := by
  cases v <;> simp [bool?, IsBool]

lemma strings?_eq_some_iff {ss : List String} : strings? v = some ss ↔ IsStrings v ss := by
  cases v with
  | arr items =>
      have hitems : ∀ v s, string? v = some s ↔ v = .str s := fun v s => string?_eq_some_iff
      simp only [strings?, mapM_eq_some_iff, hitems, IsStrings, Json.arr.injEq]
      rw [← List.forall₂_eq_eq_eq, List.forall₂_map_right_iff]
  | null | bool _ | num _ | str _ | obj _ => simp [strings?, IsStrings]

/-- A schema is any value but null, and its objects are made maps of. -/
lemma optional?_schema_iff {schema : Option Json} :
    (∃ written, Record.optional? members name some = some written
        ∧ written.map Json.sort = schema)
      ↔ Record.IsOptional .null IsSchema (members.lookup name) schema := by
  simp only [Record.optional?_eq_some_iff fun _ _ => Iff.rfl]
  generalize members.lookup name = field
  constructor
  · rintro ⟨written, h, rfl⟩
    cases h with
    | leftOut => exact Record.IsOptional.leftOut
    | null => exact Record.IsOptional.null
    | given hv hb =>
        obtain rfl := Option.some.inj hb
        exact Record.IsOptional.given hv rfl
  · intro h
    cases h with
    | leftOut => exact ⟨none, Record.IsOptional.leftOut, rfl⟩
    | null => exact ⟨none, Record.IsOptional.null, rfl⟩
    | @given v _ hv hb =>
        exact ⟨some v, Record.IsOptional.given hv rfl, congrArg some hb.symm⟩

lemma docs?_eq_some_iff {docs : RuleDocs} : docs? v = some docs ↔ IsDocs v docs := by
  rw [IsDocs, ← Record.exists_ofJson?_iff (by decide)]
  simp only [docs?, Option.bind_eq_bind, Option.bind_eq_some_iff]
  refine exists_congr fun known => and_congr_right fun _ => ?_
  rw [← Record.optional?_eq_some_iff fun v s => string?_eq_some_iff]
  constructor
  · rintro ⟨description, h, hdocs⟩
    obtain rfl := Option.some.inj hdocs
    exact h
  · exact fun h => ⟨_, h, rfl⟩

lemma info?_eq_some_iff {info : RuleMeta} : info? v = some info ↔ IsInfo v info := by
  rw [IsInfo, ← Record.exists_ofJson?_iff (by decide)]
  simp only [info?, Option.bind_eq_bind, Option.bind_eq_some_iff]
  refine exists_congr fun known => and_congr_right fun _ => ?_
  constructor
  · rintro ⟨schema, hschema, deprecated, hdeprecated, replacedBy, hreplacedBy, docs, hdocs, h⟩
    obtain rfl := Option.some.inj h
    exact {
      schema := optional?_schema_iff.1 ⟨schema, hschema, rfl⟩
      deprecated := (Record.field?_eq_some_iff fun _ _ => bool?_eq_some_iff).1 hdeprecated
      replacedBy := (Record.field?_eq_some_iff fun _ _ => strings?_eq_some_iff).1 hreplacedBy
      docs := (Record.optional?_eq_some_iff fun _ _ => docs?_eq_some_iff).1 hdocs }
  · intro h
    obtain ⟨schema, hschema, hsorted⟩ := optional?_schema_iff.2 h.schema
    refine ⟨schema, hschema, _,
      (Record.field?_eq_some_iff fun _ _ => bool?_eq_some_iff).2 h.deprecated, _,
      (Record.field?_eq_some_iff fun _ _ => strings?_eq_some_iff).2 h.replacedBy, _,
      (Record.optional?_eq_some_iff fun _ _ => docs?_eq_some_iff).2 h.docs, ?_⟩
    rw [hsorted]
    rfl

lemma declaration?_eq_some_iff {declaration : RuleDeclaration} :
    declaration? v = some declaration ↔ IsDeclaration v declaration := by
  rw [IsDeclaration, ← Record.exists_ofJson?_iff (by decide)]
  simp only [declaration?, Option.bind_eq_bind, Option.bind_eq_some_iff]
  refine exists_congr fun known => and_congr_right fun _ => ?_
  constructor
  · rintro ⟨create, hcreate, schema, hschema, info, hinfo, h⟩
    obtain rfl := Option.some.inj h
    exact {
      create := (Record.field?_eq_some_iff fun _ _ => bool?_eq_some_iff).1 hcreate
      schema := optional?_schema_iff.1 ⟨schema, hschema, rfl⟩
      info := (Record.optional?_eq_some_iff fun _ _ => info?_eq_some_iff).1 hinfo }
  · intro h
    obtain ⟨schema, hschema, hsorted⟩ := optional?_schema_iff.2 h.schema
    refine ⟨_, (Record.field?_eq_some_iff fun _ _ => bool?_eq_some_iff).2 h.create, schema,
      hschema, _, (Record.optional?_eq_some_iff fun _ _ => info?_eq_some_iff).2 h.info, ?_⟩
    rw [hsorted]
    rfl

lemma isFunction_iff :
    isFunction v = true ↔ v = .str "function" ∨ v = .obj [("function", .null)] := by
  unfold isFunction
  split
  · rw [decide_eq_true_iff]
    constructor
    · rintro rfl
      exact Or.inl rfl
    · rintro (h | h)
      · exact Json.str.inj h
      · exact nomatch h
  · rw [decide_eq_true_iff]
    constructor
    · rintro rfl
      exact Or.inr rfl
    · rintro (h | h)
      · exact nomatch h
      · exact (Prod.mk.inj (List.cons.inj (Json.obj.inj h)).1).1
  · next hstr hobj =>
      constructor
      · exact fun h => nomatch h
      · rintro (rfl | rfl)
        · exact absurd rfl (hstr _)
        · exact absurd rfl (hobj _)

lemma not_isDeclaration_str {s : String} {declaration : RuleDeclaration} :
    ¬ IsDeclaration (.str s) declaration := by
  rintro ⟨fields, hrecord, -⟩
  cases hrecord

/-- **Rules.**  The form of a function is tried first. -/
theorem rule?_eq_some_iff {form : RuleForm} : rule? v = some form ↔ IsRule v form := by
  rw [rule?]
  constructor
  · intro h
    split_ifs at h with hfunction
    · obtain rfl := Option.some.inj h
      rcases isFunction_iff.1 hfunction with rfl | rfl
      · exact IsRule.word
      · exact IsRule.marker
    · obtain ⟨declaration, hdeclaration, rfl⟩ := Option.map_eq_some_iff.1 h
      refine IsRule.object (fun heq => hfunction ?_) (declaration?_eq_some_iff.1 hdeclaration)
      exact isFunction_iff.2 (Or.inr heq)
  · intro h
    cases h with
    | word => rw [if_pos (isFunction_iff.2 (Or.inl rfl))]
    | marker => rw [if_pos (isFunction_iff.2 (Or.inr rfl))]
    | object hne hdeclaration =>
        have hfunction : ¬ isFunction v = true := by
          rw [isFunction_iff]
          rintro (rfl | heq)
          · exact not_isDeclaration_str hdeclaration
          · exact hne heq
        rw [if_neg hfunction, declaration?_eq_some_iff.2 hdeclaration, Option.map_some]

end Rules

/-! ## Reading manifests -/

lemma isWithin_iff {d : Document} {v : Json} :
    d.toJson? (Document.nestingLimit - ruleLevel) = some v ↔ IsWithin d v :=
  Document.toJson?_eq_some_iff d 125 v

/-- One rule with its name. -/
lemma namedRule_eq_some_iff {named : String × Document} {rule : String × RuleForm} :
    ((named.2.toJson? (Document.nestingLimit - ruleLevel)).bind
        fun v => (rule? v).map (named.1, ·)) = some rule
      ↔ named.1 = rule.1 ∧ ∃ v, IsWithin named.2 v ∧ IsRule v rule.2 := by
  simp only [Option.bind_eq_some_iff, Option.map_eq_some_iff, isWithin_iff, rule?_eq_some_iff]
  constructor
  · rintro ⟨v, hv, form, hform, rfl⟩
    exact ⟨rfl, v, hv, hform⟩
  · rintro ⟨hname, v, hv, hform⟩
    exact ⟨v, hv, rule.2, hform, Prod.ext hname rfl⟩

lemma rules?_eq_some_iff {d : Document} {rules : List (String × RuleForm)} :
    rules? d = some rules ↔ IsRules d rules := by
  match d with
  | .obj members =>
      have hread : rules? (.obj members) = (Record.namedDocuments? members).bind fun named =>
          named.mapM fun n => (n.2.toJson? (Document.nestingLimit - ruleLevel)).bind
            fun v => (rule? v).map (n.1, ·) := rfl
      rw [hread, Option.bind_eq_some_iff]
      simp only [mapM_eq_some_iff, namedRule_eq_some_iff, Record.namedDocuments?_eq_some_iff]
      constructor
      · rintro ⟨named, hnamed, hrules⟩
        exact IsRules.mk hnamed hrules
      · intro h
        cases h with
        | mk hnamed hrules => exact ⟨_, hnamed, hrules⟩
  | .null | .bool _ | .num _ | .str _ | .arr _ =>
      constructor
      · exact fun h => nomatch h
      · intro h
        cases h

/-- How the name and the version of a plugin are read. -/
def text? : Document → Option (Option String)
  | .null => some none
  | .str units => (Document.string? units).map some
  | _ => none

lemma field?_text?_iff {members : List (String × Document)} {name : String} {b : Option String} :
    Record.field? members name none text? = some b
      ↔ Record.IsOptional .null IsText (members.lookup name) b := by
  rw [Record.field?_eq_some_iff fun _ _ => Iff.rfl]
  refine Record.isDefaulted_none_iff (fun b => Option.some_inj.trans eq_comm) (fun d hd b => ?_)
  match d with
  | .null => exact absurd rfl hd
  | .str units =>
      rw [text?, Option.map_eq_some_iff]
      constructor
      · rintro ⟨s, hs, rfl⟩
        exact ⟨s, IsText.mk (Document.string?_eq_some_iff.1 hs), rfl⟩
      · rintro ⟨s, h, rfl⟩
        cases h with
        | mk hs => exact ⟨s, Document.string?_eq_some_iff.2 hs, rfl⟩
  | .bool _ | .num _ | .arr _ | .obj _ =>
      constructor
      · exact fun h => nomatch h
      · rintro ⟨s, h, -⟩
        cases h

lemma pluginInfo?_eq_some_iff {d : Document} (hd : d ≠ .null) {info : Option PluginMeta} :
    pluginInfo? d = some info ↔ ∃ found, IsPluginInfo d found ∧ info = some found := by
  have hread : pluginInfo? d = (Record.ofDocument? ["name", "version"] d).bind fun members =>
      (Record.field? members "name" none text?).bind fun name =>
        (Record.field? members "version" none text?).bind fun version =>
          some (some ⟨name, version⟩) := pluginInfo?.eq_2 d hd
  rw [hread]
  simp only [Option.bind_eq_some_iff, field?_text?_iff]
  constructor
  · rintro ⟨known, hknown, name, hname, version, hversion, h⟩
    obtain rfl := Option.some.inj h
    exact ⟨_, (Record.exists_ofDocument?_iff (by decide)).1 ⟨known, hknown, hname, hversion⟩, rfl⟩
  · rintro ⟨found, hfound, rfl⟩
    obtain ⟨known, hknown, hname, hversion⟩ :=
      (Record.exists_ofDocument?_iff (by decide)).2 hfound
    exact ⟨known, hknown, _, hname, _, hversion, rfl⟩

/-- **The reader finds the manifests.** -/
theorem shape?_eq_some_iff {d : Document} {info : Option PluginMeta}
    {rules : List (String × RuleForm)} :
    shape? d = some (info, rules) ↔ IsManifest d info rules := by
  rw [IsManifest, ← Record.exists_ofDocument?_iff (by decide)]
  simp only [shape?, Option.bind_eq_bind, Option.bind_eq_some_iff]
  refine exists_congr fun known => and_congr_right fun _ => ?_
  have hnull : ∀ b, pluginInfo? .null = some b ↔ b = none :=
    fun _ => Option.some_inj.trans eq_comm
  have hinfo : ∀ field b, Record.IsDefaulted none (fun d b => pluginInfo? d = some b) field b
      ↔ Record.IsOptional .null IsPluginInfo field b :=
    fun field b => Record.isDefaulted_none_iff hnull fun d hd b => pluginInfo?_eq_some_iff hd
  constructor
  · rintro ⟨info, hread, rules, hrules, h⟩
    obtain ⟨rfl, rfl⟩ := Prod.mk.inj (Option.some.inj h)
    exact ⟨(hinfo _ _).1 ((Record.field?_eq_some_iff fun _ _ => Iff.rfl).1 hread),
      (Record.field?_eq_some_iff fun _ _ => rules?_eq_some_iff).1 hrules⟩
  · rintro ⟨hread, hrules⟩
    exact ⟨_, (Record.field?_eq_some_iff fun _ _ => Iff.rfl).2 ((hinfo _ _).2 hread), _,
      (Record.field?_eq_some_iff fun _ _ => rules?_eq_some_iff).2 hrules, rfl⟩

end Manifest

end LintConfig
