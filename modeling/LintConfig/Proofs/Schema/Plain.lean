import LintConfig.Proofs.Schema.Settled
import LintConfig.Schema.Engine

/-!
# Schemas without references, identifiers and drafts of their own

`Json.Plain` values use none of the keywords `$ref`, `id` and `$schema`, neither themselves nor in
the schemas inside of them.  Names of properties and values to compare with are no keywords.
`Json.isPlainWithin` finds it out.

**Surroundings.**  A plain schema is read in the setting around it (`Json.Plain.enter?_eq`), and it
has a catalog, since there is no identifier to be malformed and no reference to lead nowhere
(`Catalog.exists_ofSchema?_of_plain`).

**Reading.**  What a plain schema is read into is settled (`Schema.settled_of_ofJson?`).  The
induction is on `Json.Plain`, so on the schemas inside of a schema; `Schema.ReadsSettled` is what it
says of each of them.

**Compiling.**  So there is nothing to link, and a plain schema compiles if it is a schema that can
be read, to the check by what it is read into (`language_eq_some_iff_of_plain`).
-/

namespace LintConfig

/-- The keywords by which a schema refers to something or names itself or its draft. -/
def linkKeywords : List String := ["$ref", "id", "$schema"]

/-- A value that uses none of these keywords, neither itself nor in the schemas inside of it. -/
inductive Json.Plain : Json → Prop where
  | intro {v : Json} : (∀ keyword ∈ linkKeywords, v.member? keyword = none) →
      (∀ w ∈ Catalog.subschemas v, Plain w) → Plain v

/-- Whether a value is plain, found out for schemas that are nested at most so deep. -/
def Json.isPlainWithin : (depth : Nat) → Json → Bool
  | 0, _ => false
  | depth + 1, v =>
    linkKeywords.all (fun keyword => (v.member? keyword).isNone)
      && (Catalog.subschemas v).all (isPlainWithin depth)

namespace Json.Plain

variable {v w : Json}

lemma of_isPlainWithin {depth : Nat} (h : v.isPlainWithin depth = true) : v.Plain := by
  induction depth generalizing v with
  | zero => exact nomatch h
  | succ depth ih =>
      rw [isPlainWithin, Bool.and_eq_true, List.all_eq_true, List.all_eq_true] at h
      exact ⟨fun keyword hkeyword => Option.isNone_iff_eq_none.1 (h.1 keyword hkeyword),
        fun w hw => ih (h.2 w hw)⟩

lemma member?_ref (h : v.Plain) : v.member? "$ref" = none := by
  obtain ⟨hkeywords, -⟩ := h
  exact hkeywords "$ref" (by decide)

lemma member?_id (h : v.Plain) : v.member? "id" = none := by
  obtain ⟨hkeywords, -⟩ := h
  exact hkeywords "id" (by decide)

lemma member?_schema (h : v.Plain) : v.member? "$schema" = none := by
  obtain ⟨hkeywords, -⟩ := h
  exact hkeywords "$schema" (by decide)

lemma of_mem_subschemas (h : v.Plain) (hw : w ∈ Catalog.subschemas v) : w.Plain := by
  obtain ⟨-, hsubschemas⟩ := h
  exact hsubschemas w hw

/-! ## Surroundings -/

lemma identifier?_eq_none (h : v.Plain) : Draft.draft04.identifier? v = none := by
  simp [Draft.identifier?, Draft.written?, Draft.identifierKeyword, h.member?_id]

lemma home?_eq (h : v.Plain) (home : Uri) : Draft.draft04.home? home v = some home := by
  rw [Draft.home?, h.identifier?_eq_none]

lemma ofSchema_eq (h : v.Plain) (d : Draft) : d.ofSchema v = d := by
  rw [Draft.ofSchema, h.member?_schema]

/-- A plain schema is read in the setting that is around it. -/
lemma enter?_eq (h : v.Plain) {s : Schema.Setting} (hs : s.draft = .draft04) :
    s.enter? v = some s := by
  obtain ⟨draft, vocabularies, home, outermost⟩ := s
  subst hs
  simp only [Schema.Setting.enter?, h.ofSchema_eq, h.home?_eq, Option.map_some]

end Json.Plain

/-! ## The catalog -/

namespace Catalog

section Catalog

variable {v : Json} {home : Uri} {depth : Nat}

lemma mapM_home?_of_plain {level : List (Uri × Json)} (h : ∀ e ∈ level, e.2.Plain) :
    (level.mapM fun (home, v) => (Draft.draft04.home? home v).map (·, v)) = some level := by
  induction level with
  | nil => rfl
  | cons e rest ih =>
      obtain ⟨hfirst, hrest⟩ := List.forall_mem_cons.1 h
      rw [List.mapM_cons, ih hrest]
      simp only [hfirst.home?_eq, Option.map_some]
      rfl

/-- The walk through plain schemas finds plain schemas only. -/
lemma exists_levels?_of_plain {level : List (Uri × Json)} (h : ∀ e ∈ level, e.2.Plain) :
    ∃ schemas, levels? depth level = some schemas ∧ ∀ e ∈ schemas, e.2.Plain := by
  induction depth generalizing level with
  | zero => exact ⟨[], rfl, fun e he => absurd he List.not_mem_nil⟩
  | succ depth ih =>
      rw [levels?, mapM_home?_of_plain h]
      cases level with
      | nil => exact ⟨[], rfl, fun e he => absurd he List.not_mem_nil⟩
      | cons first rest =>
          have hinside : ∀ e ∈ (first :: rest).flatMap fun (home, v) =>
              (subschemas v).map (home, ·), e.2.Plain := by
            intro e he
            obtain ⟨around, haround, hmem⟩ := List.mem_flatMap.1 he
            obtain ⟨w, hw, rfl⟩ := List.mem_map.1 hmem
            exact (h around haround).of_mem_subschemas hw
          obtain ⟨schemas, hschemas, hplain⟩ := ih hinside
          refine ⟨first :: rest ++ schemas, by simp only [hschemas, Option.map_some], ?_⟩
          exact List.forall_mem_append.2 ⟨h, hplain⟩

/-- A plain schema holds no reference. -/
lemma collect_of_plain (h : v.Plain) (links : Links) : links.collect home depth v = links := by
  cases depth with
  | zero => rfl
  | succ depth =>
      have hnone : ["$ref", "$schema"].filterMap v.member? = [] := by
        simp [h.member?_ref, h.member?_schema]
      rw [Links.collect, hnone]
      rfl

lemma outwardLinks_of_plain {schemas : List (Uri × Json)} (h : ∀ e ∈ schemas, e.2.Plain) :
    outwardLinks depth schemas = [] := by
  have hfold : ∀ links : Links, schemas.foldl (fun links (home, v) =>
      if home.scheme = some "urn" then links else links.collect home depth v) links = links := by
    induction schemas with
    | nil => exact fun links => rfl
    | cons e rest ih =>
        intro links
        obtain ⟨hfirst, hrest⟩ := List.forall_mem_cons.1 h
        rw [List.foldl_cons]
        simp only [collect_of_plain hfirst, ite_self]
        exact ih hrest links
  rw [outwardLinks, hfold]

/-- **A plain schema has a catalog**, whatever is in it. -/
lemma exists_ofSchema?_of_plain (h : v.Plain) : ∃ catalog, ofSchema? v = some catalog := by
  have hroot : homeOf? v = some rootAddress := h.home?_eq rootAddress
  have hlevel : ∀ e ∈ [(rootAddress, v)], e.2.Plain := by simpa using h
  obtain ⟨schemas, hschemas, hplain⟩ := @exists_levels?_of_plain (v.depth + 1) _ hlevel
  rw [← Option.isSome_iff_exists]
  simp only [ofSchema?, hroot, hschemas, Option.bind_some, outwardLinks_of_plain hplain,
    List.all_nil, if_true, Option.isSome_some]

lemma vocabularies_of_plain (h : v.Plain) (catalog : Catalog) :
    catalog.vocabularies .draft04 v = [] := by
  rw [vocabularies, Draft.named?, h.member?_schema]
  rfl

end Catalog

end Catalog

/-! ## Reading -/

namespace Schema

section Plain

variable {s : Setting} {siblings : List (String × Json)} {keyword : String} {v w : Json}
  {schema : Schema} {schemas : List Schema} {part : Part} {build : Schema → Part}

lemma ne_of_lookup_eq_none {name : String} (h : Json.lookup name siblings = none)
    (hmem : (keyword, v) ∈ siblings) : keyword ≠ name := by
  induction siblings with
  | nil => exact absurd hmem List.not_mem_nil
  | cons first rest ih =>
      obtain ⟨k, u⟩ := first
      rw [Json.lookup] at h
      split_ifs at h with hk
      rcases List.mem_cons.1 hmem with heq | hrest
      · obtain ⟨rfl, rfl⟩ := Prod.mk.inj heq
        exact hk
      · exact ih h hrest

/-- In draft 4 the value of such a keyword is a schema inside of the schema. -/
lemma mem_subschemas_of_holding? (hs : s.draft = .draft04) (hknows : s.knows keyword = true)
    (hmem : (keyword, v) ∈ siblings) (h : Part.holding? s.draft siblings keyword v = some build) :
    v ∈ Catalog.subschemas (.obj siblings) := by
  refine List.mem_flatMap.2 ⟨(keyword, v), hmem, ?_⟩
  unfold Part.holding? at h
  split at h
  -- `not`, `items`, `additionalItems` and `additionalProperties`
  case h_1 | h_2 | h_3 | h_4 | h_7 => simp
  case h_6 | h_12 => exact nomatch h
  -- the keywords of later drafts
  case h_5 | h_8 | h_9 | h_10 | h_11 => simp [Setting.knows, hs, Draft.hasKeyword] at hknows

/-- What a schema is read into, where it stands in a schema of the given setting, is settled. -/
def ReadsSettled (s : Setting) (w : Json) : Prop :=
  ∀ schema, ((s.enter? w).bind fun s => ofJson? s w) = some schema → schema.Settled

lemma settled_of_listOfItems? {items : List Json} (hread : ∀ w ∈ items, ReadsSettled s w)
    (h : listOfItems? s items = some schemas) : ∀ schema ∈ schemas, schema.Settled := by
  intro schema hschema
  rw [listOfItems?_eq_mapM] at h
  obtain ⟨w, hw, hfound⟩ := exists_of_mem_mapM h hschema
  exact hread w hw schema hfound

lemma settled_of_listOfJson? (hread : ∀ w ∈ v.items, ReadsSettled s w)
    (h : listOfJson? s v = some schemas) : ∀ schema ∈ schemas, schema.Settled := by
  cases v with
  | arr items => exact settled_of_listOfItems? hread h
  | null | bool _ | num _ | str _ | obj _ => exact nomatch h

lemma settled_of_namedOfJson? {named : List (String × Schema)}
    (hread : ∀ w ∈ v.members.map Prod.snd, ReadsSettled s w)
    (h : namedOfJson? s v = some named) : ∀ e ∈ named, e.2.Settled := by
  cases v with
  | obj members =>
      intro e he
      have h' : namedOfMembers? s members = some named := h
      rw [namedOfMembers?_eq_mapM] at h'
      obtain ⟨member, hmember, hfound⟩ := exists_of_mem_mapM h' he
      obtain ⟨schema, hschema, rfl⟩ := Option.map_eq_some_iff.1 hfound
      exact hread member.2 (List.mem_map.2 ⟨member, hmember, rfl⟩) schema hschema
  | null | bool _ | num _ | str _ | arr _ => exact nomatch h

lemma settled_of_withPatterns? {named : List (String × Schema)}
    {patterns : List (PropertyPattern × Schema)} (hnamed : ∀ e ∈ named, e.2.Settled)
    (h : withPatterns? named = some patterns) : ∀ e ∈ patterns, e.2.Settled := by
  intro e he
  rw [withPatterns?_eq_mapM] at h
  obtain ⟨source, hsource, hfound⟩ := exists_of_mem_mapM h he
  obtain ⟨p, -, rfl⟩ := Option.map_eq_some_iff.1 hfound
  exact hnamed source hsource

lemma settled_of_dependency? {lists : Bool} (hread : ReadsSettled s w)
    (h : dependency? s lists w = some schema) : schema.Settled := by
  unfold dependency? at h
  split at h
  · obtain ⟨names, -, rfl⟩ := Option.map_eq_some_iff.1 h
    exact ⟨fun _ => rfl⟩
  · exact hread schema h

lemma settled_of_dependenciesOfJson? {lists : Bool}
    (hread : ∀ w ∈ v.members.map Prod.snd, ReadsSettled s w)
    (h : dependenciesOfJson? s lists v = some schemas) : ∀ schema ∈ schemas, schema.Settled := by
  cases v with
  | obj members =>
      intro schema hschema
      have h' : dependenciesOfMembers? s lists members = some schemas := h
      rw [dependenciesOfMembers?_eq_mapM] at h'
      obtain ⟨member, hmember, hfound⟩ := exists_of_mem_mapM h' hschema
      obtain ⟨asked, hasked, rfl⟩ := Option.map_eq_some_iff.1 hfound
      have hchild := settled_of_dependency?
        (hread member.2 (List.mem_map.2 ⟨member, hmember, rfl⟩)) hasked
      exact settled_of_child (fun _ heq => nomatch heq) rfl hchild
  | null | bool _ | num _ | str _ | arr _ => exact nomatch h

/-- A member of a plain schema contributes a settled part. -/
lemma settled_of_partOfMember? (hs : s.draft = .draft04)
    (href : Json.lookup "$ref" siblings = none)
    (hread : ∀ w ∈ Catalog.subschemas (.obj siblings), ReadsSettled s w)
    (hmem : (keyword, v) ∈ siblings) (h : partOfMember? s siblings keyword v = some part) :
    part.Settled := by
  -- what is inside of the value is inside of the schema
  have hinside : ∀ w ∈ Catalog.subschemas (.obj [(keyword, v)]), ReadsSettled s w := by
    intro w hw
    refine hread w (List.mem_flatMap.2 ⟨(keyword, v), hmem, ?_⟩)
    simpa [Catalog.subschemas, Json.members] using hw
  unfold partOfMember? at h
  split_ifs at h with hunknown
  · obtain rfl := Option.some.inj h
    exact trivial
  have hknows : s.knows keyword = true := by simpa using hunknown
  split at h
  · rename_i build hbuild
    obtain ⟨schema, hschema, rfl⟩ := Option.map_eq_some_iff.1 h
    have hsub := mem_subschemas_of_holding? hs hknows hmem hbuild
    exact settled_of_holding? hbuild (hread v hsub schema hschema)
  split at h
  -- `allOf`, `anyOf` and `oneOf`, then `items` one by one
  case h_1 | h_2 | h_3 =>
    obtain ⟨schemas, hschemas, rfl⟩ := Option.map_eq_some_iff.1 h
    refine settled_of_children (by rintro _ ⟨⟩)
      (settled_of_listOfJson? (fun w hw => hinside w ?_) hschemas)
    simpa [Catalog.subschemas, Json.members] using hw
  case h_4 =>
    split at h
    · obtain ⟨schemas, hschemas, rfl⟩ := Option.map_eq_some_iff.1 h
      refine settled_of_children (by rintro _ ⟨⟩)
        (settled_of_listOfItems? (fun w hw => hinside w ?_) hschemas)
      simpa [Catalog.subschemas, Json.members] using hw
    · obtain rfl := Option.some.inj h
      exact trivial
  -- `properties` and `patternProperties`
  case h_5 =>
    obtain ⟨named, hnamed, rfl⟩ := Option.map_eq_some_iff.1 h
    refine settled_of_namedOfJson? (fun w hw => hinside w ?_) hnamed
    simpa [Catalog.subschemas, Json.members] using hw
  case h_6 =>
    obtain ⟨patterns, hpatterns, rfl⟩ := Option.map_eq_some_iff.1 h
    obtain ⟨named, hnamed, hpatterns⟩ := Option.bind_eq_some_iff.1 hpatterns
    refine settled_of_withPatterns? (settled_of_namedOfJson? (fun w hw => hinside w ?_) hnamed)
      hpatterns
    simpa [Catalog.subschemas, Json.members] using hw
  -- the keywords of later drafts, around `dependencies`
  case h_7 | h_9 => simp [Setting.knows, hs, Draft.hasKeyword, Draft.hasVocabularies] at hknows
  case h_8 =>
    obtain ⟨schemas, hschemas, rfl⟩ := Option.map_eq_some_iff.1 h
    refine settled_of_children (by rintro _ ⟨⟩)
      (settled_of_dependenciesOfJson? (fun w hw => hinside w ?_) hschemas)
    simpa [Catalog.subschemas, Json.members] using hw
  -- any other keyword
  case h_10 =>
    refine settled_of_plain? h (ne_of_lookup_eq_none href hmem) ?_ ?_
    · rintro rfl
      simp [Setting.knows, hs, Draft.hasKeyword] at hknows
    · rintro rfl
      simp [Setting.knows, hs, Draft.hasKeyword] at hknows

/-- **A plain schema is read into a settled one.** -/
theorem settled_of_ofJson? (h : v.Plain) (hs : s.draft = .draft04)
    (hread : ofJson? s v = some schema) : schema.Settled := by
  induction h generalizing schema with
  | @intro v hkeywords hsubschemas ih =>
      cases v with
      | null | num _ | str _ | arr _ => exact nomatch hread
      | bool b =>
          cases b with
          | false | true =>
              obtain rfl := Option.some.inj hread
              exact ⟨fun _ => rfl⟩
      | obj members =>
          have href : Json.lookup "$ref" members = none := hkeywords "$ref" (by decide)
          have hsole : soleReference? s members = none := by
            simp [soleReference?, hs, Draft.hasVocabularies, href]
          rw [ofJson?, hsole] at hread
          obtain ⟨parts, hparts, rfl⟩ := Option.map_eq_some_iff.1 hread
          have hinside : ∀ w ∈ Catalog.subschemas (.obj members), ReadsSettled s w := by
            intro w hw found hfound
            rw [(hsubschemas w hw).enter?_eq hs] at hfound
            exact ih w hw hfound
          refine settled_assemble fun part hpart => ?_
          rw [partsOfMembers?_eq_mapM] at hparts
          obtain ⟨member, hmember, hpart⟩ := exists_of_mem_mapM hparts hpart
          exact settled_of_partOfMember? hs href hinside hmember hpart

end Plain

end Schema

/-! ## Compiling plain schemas -/

namespace CompiledSchema

variable {v : Json}

/-- The setting in which a plain schema is read. -/
def plainSetting : Schema.Setting := ⟨.draft04, [], Catalog.rootAddress, none⟩

lemma close?_nil (catalog : Catalog) (fuel rounds : Nat) :
    close? catalog fuel rounds [] [] = some [] := by
  cases rounds with
  | zero | succ rounds => rfl

/-- **A plain schema compiles if it is a schema that can be read**, and needs no targets. -/
lemma ofJson?_of_plain (h : v.Plain) :
    ofJson? v
      = if v.isSchema then (Schema.ofJson? plainSetting v).map (⟨·, []⟩) else none := by
  obtain ⟨catalog, hcatalog⟩ := Catalog.exists_ofSchema?_of_plain h
  have hhome : Catalog.homeOf? v = some Catalog.rootAddress := h.home?_eq _
  rw [ofJson?]
  -- the number of rounds is never looked at
  generalize rounds v = n
  simp only [hcatalog, hhome, h.home?_eq, Option.bind_some, Catalog.vocabularies_of_plain h]
  split_ifs with hschema
  · rw [← plainSetting]
    cases hread : Schema.ofJson? plainSetting v with
    | none => rfl
    | some schema =>
        have hsettled := Schema.settled_of_ofJson? h rfl hread
        have hlink : catalog.link? n schema = some (schema, []) := by
          rw [Catalog.link?, hsettled.substitute_eq]
          rfl
        rw [Option.bind_some, hlink, Option.bind_some, close?_nil, Option.map_some,
          Option.map_some]
  · rfl

/-- Where there are no targets, references ask for nothing. -/
def noTarget : Reference → Json → Check := fun _ _ => .finding []

lemma violations?_of_targets_eq_nil (schema : Schema) (v : Json) :
    violations? ⟨schema, []⟩ v = schema.check noTarget v .report := rfl

end CompiledSchema

open CompiledSchema (plainSetting noTarget)

/-- **What a plain schema compiles to** is the check by what it is read into. -/
theorem language_eq_some_iff_of_plain {v : Json} (h : v.Plain)
    {search : Json → Option (List Violation)} :
    SchemaLanguage.draft04 v = some search
      ↔ v.isSchema = true ∧ ∃ schema, Schema.ofJson? plainSetting v = some schema
          ∧ search = fun w => schema.check noTarget w .report := by
  rw [SchemaLanguage.draft04, CompiledSchema.ofJson?_of_plain h]
  by_cases hschema : v.isSchema = true
  · cases Schema.ofJson? plainSetting v with
    | none => simp
    | some schema =>
        have hviolations : CompiledSchema.violations? ⟨schema, []⟩
            = fun w => schema.check noTarget w .report :=
          funext (CompiledSchema.violations?_of_targets_eq_nil schema)
        simp [hschema, hviolations, eq_comm]
  · simp [hschema]

lemma draft04_eq_some_iff_of_plain {v : Json} (h : v.Plain) {check : SchemaCheck} :
    SchemaEngine.draft04 v = some check
      ↔ v.isSchema = true ∧ ∃ schema, Schema.ofJson? plainSetting v = some schema
          ∧ check = fun w =>
            (schema.check noTarget w .report).getD SchemaLanguage.endlessReport := by
  rw [SchemaEngine.draft04, SchemaLanguage.engine, Option.map_eq_some_iff]
  constructor
  · rintro ⟨search, hsearch, rfl⟩
    obtain ⟨hschema, schema, hread, rfl⟩ := (language_eq_some_iff_of_plain h).1 hsearch
    exact ⟨hschema, schema, hread, rfl⟩
  · rintro ⟨hschema, schema, hread, rfl⟩
    exact ⟨_, (language_eq_some_iff_of_plain h).2 ⟨hschema, schema, hread, rfl⟩, rfl⟩

lemma isSome_draft04_iff_of_plain {v : Json} (h : v.Plain) :
    (SchemaEngine.draft04 v).isSome
      ↔ v.isSchema = true ∧ (Schema.ofJson? plainSetting v).isSome := by
  simp only [Option.isSome_iff_exists, draft04_eq_some_iff_of_plain h]
  constructor
  · rintro ⟨check, hschema, schema, hread, -⟩
    exact ⟨hschema, schema, hread⟩
  · rintro ⟨hschema, schema, hread⟩
    exact ⟨_, hschema, schema, hread, rfl⟩

end LintConfig
