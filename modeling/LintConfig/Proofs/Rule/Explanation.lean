import Mathlib
import LintConfig.Rule.Suggestion

/-!
# What an explanation adds to an error

`explain` replaces the error of a removed rule and otherwise at most appends to the message.

**Candidates.**  What is appended are the partial matches as they are shown, each once.  `ShownAs`
says how one match is shown, and `ListsOnce` what it means to list texts once in the order of their
first appearance.  `suggestions` does both (`shownAs_suggestionOf`, `listsOnce_firstAppearances`).

**Removed rules.**  A removed rule stands in the table once, so its replacements are those of its
line (`replacements?_eq_some_iff`).
-/

namespace LintConfig

/-! ## Listing once -/

/-- Candidates are the texts of a list without repetitions, in the order in which they first
appear. -/
structure ListsOnce (texts candidates : List String) : Prop where
  nodup : candidates.Nodup
  mem_iff : ∀ text, text ∈ candidates ↔ text ∈ texts
  ordered : candidates.Pairwise fun a b => texts.idxOf a < texts.idxOf b

section ListsOnce

variable {texts candidates : List String} {text : String}

/-- One more text leaves the places of those in front of it. -/
lemma ListsOnce.ordered_append (h : ListsOnce texts candidates) (text : String) :
    candidates.Pairwise fun a b => (texts ++ [text]).idxOf a < (texts ++ [text]).idxOf b := by
  refine h.ordered.imp_of_mem fun ha hb hbefore => ?_
  rwa [List.idxOf_append_of_mem ((h.mem_iff _).1 ha),
    List.idxOf_append_of_mem ((h.mem_iff _).1 hb)]

/-- A text that has appeared before changes nothing. -/
lemma ListsOnce.append_old (h : ListsOnce texts candidates) (hold : text ∈ texts) :
    ListsOnce (texts ++ [text]) candidates where
  nodup := h.nodup
  mem_iff other := by
    rw [h.mem_iff, List.mem_append, List.mem_singleton]
    constructor
    · exact Or.inl
    · rintro (hmem | rfl)
      · exact hmem
      · exact hold
  ordered := h.ordered_append text

/-- A text that appears for the first time comes last. -/
lemma ListsOnce.append_new (h : ListsOnce texts candidates) (hnew : text ∉ texts) :
    ListsOnce (texts ++ [text]) (candidates ++ [text]) where
  nodup := List.nodup_append.2 ⟨h.nodup, List.nodup_singleton text, fun a ha b hb heq => by
    rw [heq, List.mem_singleton.1 hb] at ha
    exact hnew ((h.mem_iff text).1 ha)⟩
  mem_iff other := by
    rw [List.mem_append, List.mem_append, h.mem_iff]
  ordered := by
    refine List.pairwise_append.2
      ⟨h.ordered_append text, List.pairwise_singleton _ _, fun a ha b hb => ?_⟩
    have hmem := (h.mem_iff a).1 ha
    obtain rfl := List.mem_singleton.1 hb
    rw [List.idxOf_append_of_mem hmem, List.idxOf_append_of_notMem hnew]
    exact (List.idxOf_lt_length_of_mem hmem).trans_le (Nat.le_add_right _ _)

lemma firstAppearances_append_singleton :
    firstAppearances (texts ++ [text])
      = if text ∈ firstAppearances texts then firstAppearances texts
        else firstAppearances texts ++ [text] := by
  rw [firstAppearances, List.foldl_append]
  rfl

/-- **`firstAppearances` lists every text once.** -/
theorem listsOnce_firstAppearances (texts : List String) :
    ListsOnce texts (firstAppearances texts) := by
  induction texts using List.reverseRecOn with
  | nil => exact ⟨List.nodup_nil, fun text => Iff.rfl, List.Pairwise.nil⟩
  | append_singleton texts text ih =>
      rw [firstAppearances_append_singleton]
      by_cases hold : text ∈ texts
      · rw [if_pos ((ih.mem_iff text).2 hold)]
        exact ih.append_old hold
      · rw [if_neg (mt (ih.mem_iff text).1 hold)]
        exact ih.append_new hold

end ListsOnce

/-! ## Showing -/

/-- How a partial match is shown: without the mark of built-in rules, if it begins with it. -/
def ShownAs (found shown : String) : Prop :=
  found = "@/" ++ shown ∨ (∀ rest, found ≠ "@/" ++ rest) ∧ shown = found

lemma shownAs_suggestionOf (found : String) : ShownAs found (suggestionOf found) := by
  rw [suggestionOf]
  split
  · rename_i bare hbare
    refine Or.inl (String.toList_inj.1 ?_)
    rw [hbare, String.toList_append]
    simp
  · rename_i hunmarked
    refine Or.inr ⟨fun rest hrest => hunmarked rest.toList ?_, rfl⟩
    rw [hrest, String.toList_append]
    rfl

/-! ## Removed rules -/

lemma replacements?_eq_some_iff {id : String} {replacements : List String} :
    replacements? id = some replacements ↔ (id, replacements) ∈ removedRules := by
  have honce : ∀ r ∈ removedRules, replacements? r.1 = some r.2 := by decide
  constructor
  · intro h
    rw [replacements?, List.lookup_eq_some_iff] at h
    obtain ⟨before, after, heq, -⟩ := h
    rw [heq]
    simp
  · exact honce (id, replacements)

/-! ## Explanations -/

section Explanation

variable {registry : Option Registry} {plugins : Registry} {id : String} {error : LookupError}

lemma suggestions_eq_nil_iff : suggestions plugins id = [] ↔ partialMatches plugins id = [] := by
  rw [List.eq_nil_iff_forall_not_mem, List.eq_nil_iff_forall_not_mem, suggestions]
  simp only [(listsOnce_firstAppearances _).mem_iff, List.mem_map]
  constructor
  · exact fun hnone found hfound => hnone _ ⟨found, hfound, rfl⟩
  · rintro hnone _ ⟨found, hfound, -⟩
    exact hnone found hfound

lemma explain_of_removed {replacements : List String}
    (h : (id, replacements) ∈ removedRules) :
    explain registry id error
      = ⟨.noBuiltIn, "Rule " ++ quoted id ++ " was removed and replaced by: "
          ++ quotedList replacements ++ "."⟩ := by
  rw [explain.eq_def, replacements?_eq_some_iff.2 h]

/-- An error is explained by nothing but suggestions, unless the rule was removed. -/
lemma explain_of_not_removed (h : ∀ replacements, (id, replacements) ∉ removedRules) :
    explain registry id error
      = error.withSuggestions ((registry.map fun plugins => suggestions plugins id).getD []) := by
  have hnone : replacements? id = none := by
    rw [Option.eq_none_iff_forall_ne_some]
    exact fun replacements hsome => h replacements (replacements?_eq_some_iff.1 hsome)
  rw [explain.eq_def, hnone]
  cases registry with
  | none => rfl
  | some plugins => rfl

lemma kind_withSuggestions (error : LookupError) (candidates : List String) :
    (error.withSuggestions candidates).kind = error.kind := by
  rw [LookupError.withSuggestions]
  split_ifs <;> rfl

lemma message_withSuggestions {candidates : List String} (h : candidates ≠ []) :
    (error.withSuggestions candidates).message
      = error.message ++ " Did you mean: " ++ quotedList candidates ++ "?" := by
  rw [LookupError.withSuggestions, if_neg (by simpa using h)]

end Explanation

/-- **An explanation adds the suggestions and nothing else.**

* The error of a removed rule says that it is no built-in rule and names its replacements in the
  order of the table, whatever the registry and the error were.
* Any other error keeps its kind.  It keeps its message too if there is no registry or nothing
  partly matches.
* Otherwise the message is followed by the partial matches as they are shown, each quoted, without
  repetitions and in the order of first appearance. -/
theorem explain_outcome (registry : Option Registry) (id : String) (error : LookupError) :
    (∀ replacements, (id, replacements) ∈ removedRules →
        explain registry id error
          = ⟨.noBuiltIn, "Rule " ++ quoted id ++ " was removed and replaced by: "
              ++ ", ".intercalate (replacements.map quoted) ++ "."⟩)
      ∧ ((∀ replacements, (id, replacements) ∉ removedRules) →
        (explain registry id error).kind = error.kind
          ∧ ((∀ plugins, registry = some plugins → partialMatches plugins id = []) →
              (explain registry id error).message = error.message)
          ∧ ∀ plugins, registry = some plugins → partialMatches plugins id ≠ [] →
              ∃ shown candidates, List.Forall₂ ShownAs (partialMatches plugins id) shown
                ∧ ListsOnce shown candidates
                ∧ (explain registry id error).message
                  = error.message ++ " Did you mean: " ++ ", ".intercalate (candidates.map quoted)
                    ++ "?") := by
  refine ⟨fun replacements hremoved => explain_of_removed hremoved, fun hkept => ?_⟩
  rw [explain_of_not_removed hkept]
  refine ⟨kind_withSuggestions _ _, fun hnone => ?_, ?_⟩
  · cases registry with
    | none => rfl
    | some plugins =>
        rw [Option.map_some, Option.getD_some, suggestions_eq_nil_iff.2 (hnone plugins rfl)]
        rfl
  · rintro plugins rfl hfound
    refine ⟨(partialMatches plugins id).map suggestionOf, suggestions plugins id, ?_,
      listsOnce_firstAppearances _, message_withSuggestions (mt suggestions_eq_nil_iff.1 hfound)⟩
    rw [List.forall₂_map_right_iff, List.forall₂_same]
    exact fun found _ => shownAs_suggestionOf found

end LintConfig
