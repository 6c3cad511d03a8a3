import LintConfig.Proofs.Schema.Members

/-!
# Schemas without references

A schema is `Settled` if putting something in the place of references leaves it as it is, whatever
is put there and whatever effects that has.  Only a reference is not settled of itself.

**Schemas.**  Any other schema is settled if the schemas directly inside of it are
(`settled_of_children`), and the schema of an object is if its parts are (`settled_assemble`).

**Keywords.**  A keyword without sub-schemas contributes a settled part if it is none of those for
references (`settled_of_plain?`), and one with a sub-schema does if that is read into a settled one
(`settled_of_holding?`).
-/

namespace LintConfig

namespace Schema

/-- A schema in which there is nothing to substitute. -/
structure Settled (schema : Schema) : Prop where
  substitute_eq : ∀ {m : Type → Type} [Monad m] [LawfulMonad m] (f : Reference → m Schema),
    schema.substitute f = pure schema

/-! ## Lists -/

section Lists

variable {m : Type → Type} [Monad m] [LawfulMonad m] (f : Reference → m Schema)

lemma substituteList_of_settled {schemas : List Schema} (h : ∀ schema ∈ schemas, schema.Settled) :
    substituteList f schemas = pure schemas := by
  induction schemas with
  | nil => rfl
  | cons schema rest ih =>
      obtain ⟨hfirst, hrest⟩ := List.forall_mem_cons.1 h
      simp only [substituteList, hfirst.substitute_eq f, ih hrest, pure_bind]

lemma substituteNamed_of_settled {schemas : List (String × Schema)}
    (h : ∀ e ∈ schemas, e.2.Settled) : substituteNamed f schemas = pure schemas := by
  induction schemas with
  | nil => rfl
  | cons e rest ih =>
      obtain ⟨hfirst, hrest⟩ := List.forall_mem_cons.1 h
      simp only [substituteNamed, hfirst.substitute_eq f, ih hrest, pure_bind]

lemma substitutePatterns_of_settled {schemas : List (PropertyPattern × Schema)}
    (h : ∀ e ∈ schemas, e.2.Settled) : substitutePatterns f schemas = pure schemas := by
  induction schemas with
  | nil => rfl
  | cons e rest ih =>
      obtain ⟨hfirst, hrest⟩ := List.forall_mem_cons.1 h
      simp only [substitutePatterns, hfirst.substitute_eq f, ih hrest, pure_bind]

lemma substituteOption_of_settled {schema : Option Schema}
    (h : ∀ found, schema = some found → found.Settled) :
    substituteOption f schema = pure schema := by
  cases schema with
  | none => rfl
  | some found => simp only [substituteOption, (h found rfl).substitute_eq f, pure_bind]

end Lists

/-! ## Children -/

/-- The schemas directly inside of a schema. -/
def children : Schema → List Schema
  | all schemas | firstItems schemas | anyOf schemas | oneOf schemas => schemas
  | eachItem schema | laterItems _ schema | contains _ _ schema | propertyNames schema
  | not _ schema | ifPresent _ schema => [schema]
  | properties schemas => schemas.map Prod.snd
  | patternProperties schemas => schemas.map Prod.snd
  | closed known patterns others =>
    known.map Prod.snd ++ patterns.map Prod.snd ++ others.toList
  | conditional test accepted refused => [test, accepted, refused]
  | _ => []

/-- **A schema that is no reference** is settled if the schemas in it are. -/
theorem settled_of_children {schema : Schema} (hreference : ∀ target, schema ≠ reference target)
    (h : ∀ child ∈ schema.children, child.Settled) : schema.Settled := by
  refine ⟨fun {m} _ _ f => ?_⟩
  cases schema with
  | reference target => exact absurd rfl (hreference target)
  | all schemas | firstItems schemas | anyOf schemas | oneOf schemas =>
      have hall : ∀ schema ∈ schemas, schema.Settled := h
      simp only [substitute, substituteList_of_settled f hall, pure_bind]
  | eachItem schema | laterItems first schema | contains least most schema | propertyNames schema
  | not source schema | ifPresent name schema =>
      simp only [substitute, (h schema (List.mem_singleton_self schema)).substitute_eq f, pure_bind]
  | properties schemas =>
      simp only [substitute, substituteNamed_of_settled f (List.forall_mem_map.1 h), pure_bind]
  | patternProperties schemas =>
      simp only [substitute, substitutePatterns_of_settled f (List.forall_mem_map.1 h), pure_bind]
  | closed known patterns others =>
      obtain ⟨hdescribed, hothers⟩ := List.forall_mem_append.1 h
      obtain ⟨hknown, hpatterns⟩ := List.forall_mem_append.1 hdescribed
      have hother : ∀ found, others = some found → found.Settled :=
        fun found hfound => hothers found (by simp [hfound])
      -- whether there are patterns decides about the order, which does not matter here
      simp only [substitute, substitutePatterns_of_settled f (List.forall_mem_map.1 hpatterns),
        substituteNamed_of_settled f (List.forall_mem_map.1 hknown),
        substituteOption_of_settled f hother, pure_bind, ite_self]
  | conditional test accepted refused =>
      have htest := h test (by simp [children])
      have haccepted := h accepted (by simp [children])
      have hrefused := h refused (by simp [children])
      simp only [substitute, htest.substitute_eq f, haccepted.substitute_eq f,
        hrefused.substitute_eq f, pure_bind]
  | anything | nothing | types | enum | const | atLeastNumber | atMostNumber | multipleOf
  | atLeast | atMost | uniqueItems | required | noLaterItems | noProperties | unnamed | pattern
  | format | content => rfl

lemma settled_anything : anything.Settled := ⟨fun _ => rfl⟩

lemma settled_of_child {schema child : Schema} (hreference : ∀ target, schema ≠ reference target)
    (hchildren : schema.children = [child]) (h : child.Settled) : schema.Settled := by
  refine settled_of_children hreference fun other hother => ?_
  rw [hchildren, List.mem_singleton] at hother
  rwa [hother]

lemma settled_conditional {test accepted refused : Schema} (htest : test.Settled)
    (haccepted : accepted.Settled) (hrefused : refused.Settled) :
    (conditional test accepted refused).Settled := by
  refine settled_of_children (fun _ heq => nomatch heq) ?_
  simp only [children, List.forall_mem_cons]
  exact ⟨htest, haccepted, hrefused, fun _ hmem => absurd hmem List.not_mem_nil⟩

/-! ## Parts -/

/-- A part that contributes nothing but settled schemas. -/
def Part.Settled : Part → Prop
  | silent | anyOthers => True
  | constraint schema | test schema | accepted schema | refused schema => schema.Settled
  | properties schemas => ∀ e ∈ schemas, e.2.Settled
  | patternProperties schemas => ∀ e ∈ schemas, e.2.Settled
  | others schema => ∀ found, schema = some found → found.Settled

section Parts

variable {parts : List Part} {part : Part}

/-- What is found among settled parts has what settled parts have. -/
lemma of_getD_findSome? {α : Type} {select : Part → Option α} {P : α → Prop} {default : α}
    (h : ∀ part ∈ parts, part.Settled)
    (hselect : ∀ (part : Part) a, part.Settled → select part = some a → P a)
    (hdefault : P default) : P ((parts.findSome? select).getD default) := by
  cases hfind : parts.findSome? select with
  | none => exact hdefault
  | some a =>
      obtain ⟨part, hpart, hfound⟩ := List.exists_of_findSome?_eq_some hfind
      exact hselect part a (h part hpart) hfound

lemma Part.Settled.of_properties? {schemas : List (String × Schema)} (h : part.Settled)
    (hfound : part.properties? = some schemas) : ∀ e ∈ schemas, e.2.Settled := by
  cases part with
  | properties found =>
      obtain rfl := Option.some.inj hfound
      exact h
  | _ => exact nomatch hfound

lemma Part.Settled.of_patternProperties? {schemas : List (PropertyPattern × Schema)}
    (h : part.Settled) (hfound : part.patternProperties? = some schemas) :
    ∀ e ∈ schemas, e.2.Settled := by
  cases part with
  | patternProperties found =>
      obtain rfl := Option.some.inj hfound
      exact h
  | _ => exact nomatch hfound

lemma Part.Settled.of_accepted? {schema : Schema} (h : part.Settled)
    (hfound : part.accepted? = some schema) : schema.Settled := by
  cases part with
  | accepted found =>
      obtain rfl := Option.some.inj hfound
      exact h
  | _ => exact nomatch hfound

lemma Part.Settled.of_refused? {schema : Schema} (h : part.Settled)
    (hfound : part.refused? = some schema) : schema.Settled := by
  cases part with
  | refused found =>
      obtain rfl := Option.some.inj hfound
      exact h
  | _ => exact nomatch hfound

/-- What a part asks for among the others is settled too. -/
lemma settled_schema (h : ∀ part ∈ parts, part.Settled) (hpart : part.Settled) :
    (part.schema parts).Settled := by
  cases part with
  | silent => exact settled_anything
  | constraint schema => exact hpart
  | properties schemas =>
      simp only [Part.schema]
      split_ifs
      · exact settled_anything
      · exact settled_of_children (fun _ heq => nomatch heq) (List.forall_mem_map.2 hpart)
  | patternProperties schemas =>
      simp only [Part.schema]
      split_ifs
      · exact settled_anything
      · exact settled_of_children (fun _ heq => nomatch heq) (List.forall_mem_map.2 hpart)
  | others schema =>
      unfold Part.schema
      dsimp only
      split
      · exact ⟨fun _ => rfl⟩
      · refine settled_of_children (fun _ heq => nomatch heq) ?_
        simp only [children, List.forall_mem_append, List.forall_mem_map, Option.mem_toList]
        have hknown : ∀ e ∈ (parts.findSome? Part.properties?).getD [], e.2.Settled :=
          of_getD_findSome? h (fun _ _ => Part.Settled.of_properties?) (by simp)
        have hpatterns : ∀ e ∈ (parts.findSome? Part.patternProperties?).getD [], e.2.Settled :=
          of_getD_findSome? h (fun _ _ => Part.Settled.of_patternProperties?) (by simp)
        exact ⟨⟨hknown, hpatterns⟩, hpart⟩
  | anyOthers =>
      simp only [Part.schema]
      cases hfind : parts.findSome? Part.patternProperties? with
      | none => exact settled_anything
      | some schemas =>
          have hschemas : (patternProperties schemas).Settled := by
            obtain ⟨part, hpart, hfound⟩ := List.exists_of_findSome?_eq_some hfind
            have hsettled := (h part hpart).of_patternProperties? hfound
            exact settled_of_children (fun _ heq => nomatch heq) (List.forall_mem_map.2 hsettled)
          exact settled_conditional settled_anything settled_anything hschemas
  | test schema =>
      have haccepted : ((parts.findSome? Part.accepted?).getD anything).Settled :=
        of_getD_findSome? h (fun _ _ => Part.Settled.of_accepted?) settled_anything
      have hrefused : ((parts.findSome? Part.refused?).getD anything).Settled :=
        of_getD_findSome? h (fun _ _ => Part.Settled.of_refused?) settled_anything
      exact settled_conditional hpart haccepted hrefused
  | accepted schema => exact settled_anything
  | refused schema => exact settled_anything

/-- **The schema of an object** is settled if its parts are. -/
theorem settled_assemble (h : ∀ part ∈ parts, part.Settled) : (assemble parts).Settled := by
  refine settled_of_children (fun _ heq => nomatch heq) fun schema hschema => ?_
  obtain ⟨part, hpart, rfl⟩ := List.mem_map.1 hschema
  exact settled_schema h (h part hpart)

end Parts

/-! ## Keywords without sub-schemas -/

section Keywords

variable {s : Setting} {siblings : List (String × Json)} {keyword : String} {v : Json}
  {schema : Schema} {part : Part} {build : Schema → Part}

lemma settled_of_map {α : Type} {x : Option α} {f : α → Option Schema}
    (hf : ∀ a schema, f a = some schema → schema.Settled)
    (h : x.map f = some (some schema)) : schema.Settled := by
  obtain ⟨a, -, hfound⟩ := Option.map_eq_some_iff.1 h
  exact hf a schema hfound

/-- What a keyword without sub-schemas asks for is settled. -/
lemma settled_of_constraint? {d : Draft}
    (h : Keyword.constraint? d siblings keyword v = some (some schema)) : schema.Settled := by
  unfold Keyword.constraint? at h
  split at h
  -- types, limits of numbers, bounds of sizes, and `required`
  case h_1 | h_4 | h_5 | h_6 | h_7 | h_8 | h_9 | h_10 | h_11 | h_12 | h_13 | h_14 | h_16 =>
    refine settled_of_map (fun a found hfound => ?_) h
    obtain rfl := Option.some.inj hfound
    exact ⟨fun _ => rfl⟩
  -- `enum` and `const`
  case h_2 =>
    split at h
    · obtain rfl := Option.some.inj (Option.some.inj h)
      exact ⟨fun _ => rfl⟩
    · exact nomatch h
  case h_3 =>
    obtain rfl := Option.some.inj (Option.some.inj h)
    exact ⟨fun _ => rfl⟩
  -- `uniqueItems`
  case h_15 =>
    split at h
    · obtain rfl := Option.some.inj (Option.some.inj h)
      exact ⟨fun _ => rfl⟩
    · exact nomatch h
  -- `dependentRequired`, the only one that asks for several things
  case h_17 =>
    split at h
    · obtain ⟨schemas, hschemas, hfound⟩ := Option.map_eq_some_iff.1 h
      obtain rfl := Option.some.inj hfound
      refine settled_of_children (fun _ heq => nomatch heq) fun child hchild => ?_
      obtain ⟨member, -, hmember⟩ := exists_of_mem_mapM hschemas hchild
      obtain ⟨names, -, rfl⟩ := Option.map_eq_some_iff.1 hmember
      exact settled_of_child (fun _ heq => nomatch heq) rfl ⟨fun _ => rfl⟩
    · exact nomatch h
  -- `pattern`
  case h_18 =>
    obtain ⟨source, -, h⟩ := Option.bind_eq_some_iff.1 h
    refine settled_of_map (fun a found hfound => ?_) h
    obtain rfl := Option.some.inj hfound
    exact ⟨fun _ => rfl⟩
  -- `format` and the content of strings, which may ask for nothing; below, an encoding alone
  case h_19 | h_20 =>
    refine settled_of_map (fun a found hfound => ?_) h
    obtain ⟨_, -, rfl⟩ := Option.map_eq_some_iff.1 hfound
    exact ⟨fun _ => rfl⟩
  case h_21 =>
    split_ifs at h
    · exact nomatch h
    · refine settled_of_map (fun a found hfound => ?_) h
      obtain ⟨_, -, rfl⟩ := Option.map_eq_some_iff.1 hfound
      exact ⟨fun _ => rfl⟩
  case h_22 => exact nomatch h

/-- A keyword that is no reference contributes a settled part, if its value holds no schema. -/
lemma settled_of_plain? (h : Part.plain? s siblings keyword v = some part) (href : keyword ≠ "$ref")
    (hrecursive : keyword ≠ "$recursiveRef") (hdynamic : keyword ≠ "$dynamicRef") :
    part.Settled := by
  unfold Part.plain? at h
  split at h
  -- the keywords for references
  case h_1 => exact absurd rfl href
  case h_2 => exact absurd rfl hrecursive
  case h_3 => exact absurd rfl hdynamic
  -- `additionalItems`, by what stands beside it
  case h_4 =>
    split at h
    case h_1 =>
      obtain rfl := Option.some.inj h
      exact ⟨fun _ => rfl⟩
    case h_2 | h_3 | h_4 | h_5 =>
      obtain rfl := Option.some.inj h
      exact trivial
    case h_6 => exact nomatch h
  case h_5 => exact nomatch h
  -- `additionalProperties` and `propertyNames`, with a truth value
  case h_6 =>
    obtain rfl := Option.some.inj h
    exact fun _ hfound => nomatch hfound
  case h_7 =>
    obtain rfl := Option.some.inj h
    exact trivial
  case h_8 =>
    obtain rfl := Option.some.inj h
    exact ⟨fun _ => rfl⟩
  -- any other keyword
  case h_9 =>
    obtain ⟨found, hfound, rfl⟩ := Option.map_eq_some_iff.1 h
    cases found with
    | none => exact trivial
    | some schema => exact settled_of_constraint? hfound

/-! ## Keywords with one sub-schema -/

/-- What is built around a settled schema is settled. -/
lemma settled_of_holding? {d : Draft} (h : Part.holding? d siblings keyword v = some build)
    (hschema : schema.Settled) : (build schema).Settled := by
  unfold Part.holding? at h
  split at h
  -- `not`, then the three for items
  case h_1 =>
    obtain rfl := Option.some.inj h
    exact settled_of_child (fun _ heq => nomatch heq) rfl hschema
  case h_2 | h_3 =>
    obtain rfl := Option.some.inj h
    dsimp only
    split
    · exact settled_of_child (fun _ heq => nomatch heq) rfl hschema
    · exact settled_of_child (fun _ heq => nomatch heq) rfl hschema
  case h_4 | h_5 =>
    obtain ⟨_, -, rfl⟩ := Option.map_eq_some_iff.1 h
    exact settled_of_child (fun _ heq => nomatch heq) rfl hschema
  case h_6 | h_12 => exact nomatch h
  -- `additionalProperties`, whose schema may be missing
  case h_7 =>
    obtain rfl := Option.some.inj h
    intro found hfound
    obtain rfl := Option.some.inj hfound
    exact hschema
  case h_8 =>
    obtain rfl := Option.some.inj h
    exact settled_of_child (fun _ heq => nomatch heq) rfl hschema
  -- `if`, `then` and `else`, each beside another
  case h_9 | h_10 | h_11 =>
    split_ifs at h
    obtain rfl := Option.some.inj h
    exact hschema

end Keywords

end Schema

end LintConfig
