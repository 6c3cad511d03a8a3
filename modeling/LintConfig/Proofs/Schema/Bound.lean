import Mathlib
import LintConfig.Proofs.Schema.Arrays

/-!
# Bounds survive compilation

A schema may refer to all kinds of things, and linking puts them in its place.  What it asks for by
itself stays there: the parts in which there is nothing to substitute are parts of what is linked
(`exists_parts_of_link?`).  So an array with more items than the keyword `maxItems` allows is
refused by every schema that compiles, whatever else stands in it, unless the check does not come to
an end (`SchemaLanguage.KeepsBounds`, `keepsBounds_draft04`).

Only a reference beside the keyword is different, since it stands for the whole object.
-/

namespace LintConfig

namespace Schema

/-! ## Linking -/

section Linking

variable {α β : Type} {f : Reference → StateT Linking Option Schema} {schemas found : List Schema}
  {s s' : Linking}

lemma exists_of_run_bind {x : StateT Linking Option α} {g : α → StateT Linking Option β}
    {result : β × Linking} (h : (x >>= g).run s = some result) :
    ∃ a s', x.run s = some (a, s') ∧ (g a).run s' = some result := by
  rw [StateT.run_bind] at h
  obtain ⟨⟨a, s'⟩, hx, hg⟩ := Option.bind_eq_some_iff.1 h
  exact ⟨a, s', hx, hg⟩

/-- By induction on the list: each schema is substituted where it stands. -/
lemma mem_of_run_substituteList (h : (substituteList f schemas).run s = some (found, s'))
    {schema : Schema} (hsettled : schema.Settled) (hmem : schema ∈ schemas) : schema ∈ found := by
  induction schemas generalizing found s s' with
  | nil => exact absurd hmem List.not_mem_nil
  | cons first rest ih =>
      rw [substituteList] at h
      obtain ⟨first', s₁, hfirst, h⟩ := exists_of_run_bind h
      obtain ⟨rest', s₂, hrest, h⟩ := exists_of_run_bind h
      obtain ⟨rfl, -⟩ := Prod.mk.inj (Option.some.inj h)
      rcases List.mem_cons.1 hmem with rfl | hmem
      · rw [hsettled.substitute_eq f] at hfirst
        obtain ⟨rfl, -⟩ := Prod.mk.inj (Option.some.inj hfirst)
        exact List.mem_cons_self
      · exact List.mem_cons_of_mem _ (ih hrest hmem)

/-- **A conjunction is linked part by part.** -/
lemma exists_parts_of_link? {catalog : Catalog} {fuel : Nat} {root : Schema}
    {references : List Reference}
    (h : catalog.link? fuel (all schemas) = some (root, references)) :
    ∃ parts, root = all parts ∧ ∀ schema ∈ schemas, schema.Settled → schema ∈ parts := by
  rw [Catalog.link?] at h
  obtain ⟨⟨linked, s⟩, hrun, heq⟩ := Option.map_eq_some_iff.1 h
  obtain ⟨rfl, -⟩ := Prod.mk.inj heq
  rw [substitute] at hrun
  obtain ⟨parts, s', hparts, hall⟩ := exists_of_run_bind hrun
  obtain ⟨rfl, -⟩ := Prod.mk.inj (Option.some.inj hall)
  exact ⟨parts, rfl, fun schema hmem hsettled => mem_of_run_substituteList hparts hsettled hmem⟩

end Linking

/-! ## Reading -/

/-- The bound is a part of the schema that is read. -/
lemma exists_mem_of_maxItems {s : Setting} (hs : s.draft = .draft04)
    {members : List (String × Json)} {schema : Schema}
    (href : Json.lookup "$ref" members = none) {n : Nat}
    (hbound : Json.lookup "maxItems" members = some (Json.ofNat n))
    (hread : ofJson? s (.obj members) = some schema) :
    ∃ schemas, schema = all schemas ∧ atMost .items n ∈ schemas := by
  rw [ofJson?_obj hs href] at hread
  obtain ⟨parts, hparts, rfl⟩ := Option.map_eq_some_iff.1 hread
  rw [partsOfMembers?_eq_mapM] at hparts
  have hpart : Part.constraint (atMost .items n) ∈ parts :=
    mem_of_mem_mapM hparts (Json.mem_of_lookup hbound) (partOfMember?_maxItems hs _ n)
  exact ⟨_, rfl, List.mem_map.2 ⟨_, hpart, rfl⟩⟩

end Schema

/-! ## Compiling -/

/-- What compiles has been read by the rules of draft 4, and linked. -/
lemma CompiledSchema.exists_link?_of_ofJson? {source : Json} {compiled : CompiledSchema}
    (h : CompiledSchema.ofJson? source = some compiled) :
    ∃ (s : Schema.Setting) (schema : Schema) (catalog : Catalog) (fuel : Nat)
        (references : List Reference),
      s.draft = .draft04 ∧ Schema.ofJson? s source = some schema
        ∧ catalog.link? fuel schema = some (compiled.root, references) := by
  rw [CompiledSchema.ofJson?] at h
  generalize CompiledSchema.rounds source = fuel at h
  split_ifs at h
  obtain ⟨catalog, -, h⟩ := Option.bind_eq_some_iff.1 h
  obtain ⟨home, -, h⟩ := Option.bind_eq_some_iff.1 h
  obtain ⟨⟨root, references⟩, hlink, h⟩ := Option.bind_eq_some_iff.1 h
  obtain ⟨schema, hread, hlink⟩ := Option.bind_eq_some_iff.1 hlink
  obtain ⟨targets, -, rfl⟩ := Option.map_eq_some_iff.1 h
  exact ⟨_, schema, catalog, fuel, references, rfl, hread, hlink⟩

/-- Whether a schema refuses the arrays that are too long for it, wherever the check of one comes to
an end.  A reference beside the bound stands for the whole schema. -/
def SchemaLanguage.KeepsBounds (language : SchemaLanguage) : Prop :=
  ∀ members search n options found, language (.obj members) = some search →
    Json.lookup "$ref" members = none → Json.lookup "maxItems" members = some (Json.ofNat n) →
    n < options.length → search (.arr options) = some found → found ≠ []

/-- **What compiles in draft 4 refuses arrays that are too long for it.** -/
theorem SchemaLanguage.keepsBounds_draft04 : SchemaLanguage.draft04.KeepsBounds := by
  intro members search n options found hsearch href hbound hlong hfound
  obtain ⟨compiled, hcompiled, rfl⟩ := Option.map_eq_some_iff.1 hsearch
  obtain ⟨s, schema, catalog, fuel, references, hs, hread, hlink⟩ :=
    CompiledSchema.exists_link?_of_ofJson? hcompiled
  obtain ⟨schemas, rfl, hmem⟩ := Schema.exists_mem_of_maxItems hs href hbound hread
  obtain ⟨parts, hroot, hkept⟩ := Schema.exists_parts_of_link? hlink
  have hpart : Schema.atMost .items n ∈ parts := hkept _ hmem ⟨fun _ => rfl⟩
  rw [CompiledSchema.violations?, CompiledSchema.check, hroot] at hfound
  rintro rfl
  -- a report without violations has none of the bound either
  have hnone := Schema.check_all_eq_some_nil_iff.1 hfound _ hpart
  rw [Schema.check, Measure.count?, Check.finding_eq_some_nil_iff, Schema.report_eq_nil_iff,
    decide_eq_true_iff] at hnone
  omega

end LintConfig
