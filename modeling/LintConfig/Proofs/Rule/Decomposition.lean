import Mathlib
import LintConfig.Pieces
import LintConfig.Proofs.Rule.PartialMatch
import LintConfig.Rule.Resolution

/-!
# Cutting identifiers by byte offsets

`RuleId.splits` is a recursion on characters.  The same list comes out of the text as it is stored:
take the byte offsets of the slashes from left to right, and cut out the bytes before and after each
(`bytes_splits`).  A slash is one byte in front of which whole characters stand, so every cut falls
between characters.

**First slash.**  Cutting once, at the first slash, gives the first of the splits (`head?_splits`),
which is the only one if there is a single slash.  The lookup in the plugin that such an identifier
names is therefore a lookup of that one cut (`resolve_of_single_slash`).

`splits_decompositions` puts this together with what `Proofs/Rule/Identifier` says of the splits as
decompositions.
-/

namespace LintConfig

namespace RuleId

/-! ## Byte offsets -/

/-- The byte offsets of the slashes of a text that begins at the offset `start`. -/
def slashOffsets (start : ℕ) : List Char → List ℕ
  | [] => []
  | c :: rest =>
    let later := slashOffsets (start + c.utf8Size) rest
    if c = '/' then start :: later else later

lemma slashOffsets_eq (start : ℕ) (cs : List Char) :
    slashOffsets start cs = (splitsChars cs).map fun s => start + String.utf8Len s.1 := by
  induction cs generalizing start with
  | nil => rfl
  | cons c rest ih =>
      have hlater : slashOffsets (start + c.utf8Size) rest
          = ((splitsChars rest).map fun s => (c :: s.1, s.2)).map
              fun s => start + String.utf8Len s.1 := by
        rw [ih, List.map_map]
        refine List.map_congr_left fun s _ => ?_
        rw [Function.comp_apply, String.utf8Len_cons]
        omega
      by_cases hc : c = '/'
      · simp only [slashOffsets, splitsChars, hc, if_true, List.map_cons]
        rw [← hc, hlater]
        rfl
      · simp only [slashOffsets, splitsChars, hc, if_false]
        exact hlater

/-- The offsets of the slashes are the sizes of the plugin names. -/
lemma slashOffsets_toList (id : String) :
    slashOffsets 0 id.toList = (splits id).map fun s => s.1.utf8ByteSize := by
  rw [slashOffsets_eq, splits, List.map_map]
  refine List.map_congr_left fun s _ => ?_
  rw [Function.comp_apply, String.utf8ByteSize_ofList, Nat.zero_add]

lemma utf8ByteSize_join (plugin rule : String) :
    (join plugin rule).utf8ByteSize = plugin.utf8ByteSize + 1 + rule.utf8ByteSize := by
  rw [join, String.utf8ByteSize_append, String.utf8ByteSize_append]
  rfl

lemma toByteArray_join (plugin rule : String) :
    (join plugin rule).toByteArray
      = plugin.toByteArray ++ ("/".toByteArray ++ rule.toByteArray) := by
  rw [join, String.toByteArray_append, String.toByteArray_append, ByteArray.append_assoc]

/-- The bytes in front of the slash of an identifier are those of the plugin name. -/
lemma extract_join_left (plugin rule : String) :
    (join plugin rule).toByteArray.extract 0 plugin.utf8ByteSize = plugin.toByteArray := by
  rw [toByteArray_join]
  exact ByteArray.extract_append_eq_left String.size_toByteArray.symm

/-- The bytes behind the slash of an identifier are those of the rule name. -/
lemma extract_join_right (plugin rule : String) :
    (join plugin rule).toByteArray.extract (plugin.utf8ByteSize + 1)
        (join plugin rule).utf8ByteSize = rule.toByteArray := by
  have hslash : (plugin.toByteArray ++ "/".toByteArray).size = plugin.utf8ByteSize + 1 := by
    rw [ByteArray.size_append, String.size_toByteArray]
    rfl
  rw [toByteArray_join, ← ByteArray.append_assoc]
  refine ByteArray.extract_append_eq_right hslash.symm ?_
  rw [hslash, String.size_toByteArray, utf8ByteSize_join]

/-- **The splits are the cuts at the byte offsets of the slashes.** -/
theorem bytes_splits (id : String) :
    (splits id).map (fun s => (s.1.toByteArray, s.2.toByteArray))
      = (slashOffsets 0 id.toList).map fun i =>
          (id.toByteArray.extract 0 i, id.toByteArray.extract (i + 1) id.utf8ByteSize) := by
  rw [slashOffsets_toList, List.map_map]
  refine List.map_congr_left fun s hs => ?_
  have hjoin : join s.1 s.2 = id := mem_splits.1 hs
  rw [Function.comp_apply, ← hjoin, extract_join_left, extract_join_right]

/-! ## The first slash -/

/-- What stands before and after the first slash, if there is one. -/
def splitOnce? (id : String) : Option (String × String) :=
  (cutAt '/' id.toList).2.map fun after =>
    (String.ofList (cutAt '/' id.toList).1, String.ofList after)

lemma head?_splitsChars (cs : List Char) :
    (splitsChars cs).head? = (cutAt '/' cs).2.map fun after => ((cutAt '/' cs).1, after) := by
  induction cs with
  | nil => rfl
  | cons c rest ih =>
      by_cases hc : c = '/'
      · simp only [splitsChars, cutAt, hc, if_true, List.head?_cons, Option.map_some]
      · simp only [splitsChars, cutAt, hc, if_false, List.head?_map, ih, Option.map_map]
        rfl

/-- Cutting at the first slash gives the first split. -/
lemma head?_splits (id : String) : (splits id).head? = splitOnce? id := by
  rw [splits, List.head?_map, head?_splitsChars, Option.map_map]
  rfl

/-- With a single slash there is nothing but the cut at the first one. -/
lemma splits_of_single_slash {id : String} (h : id.toList.count '/' = 1) :
    ∃ split, splitOnce? id = some split ∧ splits id = [split] := by
  rw [← length_splits, List.length_eq_one_iff] at h
  obtain ⟨split, hsplit⟩ := h
  exact ⟨split, by rw [← head?_splits, hsplit]; rfl, hsplit⟩

end RuleId

/-! ## The lookup in the plugin that is named -/

/-- Looks a rule up in the one plugin that an identifier with a single slash names. -/
def Registry.lookUp (registry : Registry) (plugin rule : String) :
    Except LookupFailure (RuleName × RuleDefinition) :=
  match registry.ruleOfSplit? (plugin, rule) with
  | some found => .ok found
  | none =>
    .error (if (registry.get? plugin).isSome then .noSuchRule plugin rule
      else .noSuchPlugin plugin)

lemma resolve_of_single_slash {id plugin rule : String}
    (h : RuleId.splits id = [(plugin, rule)]) (registry : Registry) :
    resolve (some registry) id = registry.lookUp plugin rule := by
  have hid : id ≠ "" := by
    rintro rfl
    exact List.cons_ne_nil _ _ h.symm
  simp only [resolve, hid, if_false, Registry.find, h]
  rfl

/-- **The splits of an identifier are its decompositions, each once and in order.**

* A pair is listed exactly if putting a slash between its parts gives the identifier.
* The plugin names get longer and what is left of the identifier shorter, in characters and in
  bytes, and there are as many splits as slashes.
* They are what the bytes in front of each slash and behind it spell.
* The names that a search for partial matches goes through are the identifier itself and the second
  parts, without the empty one.
* For an identifier with a single slash the only split is the cut at the first slash, and resolution
  looks up this pair. -/
theorem splits_decompositions (id : String) :
    (∀ plugin rule, (plugin, rule) ∈ RuleId.splits id ↔ plugin ++ "/" ++ rule = id)
      ∧ (RuleId.splits id).Nodup
      ∧ (RuleId.splits id).Pairwise (fun a b =>
          a.1.length < b.1.length ∧ a.1.utf8ByteSize < b.1.utf8ByteSize)
      ∧ (RuleId.splits id).length = id.toList.count '/'
      ∧ (RuleId.splits id).map (fun s => (s.1.toByteArray, s.2.toByteArray))
          = (RuleId.slashOffsets 0 id.toList).map (fun i =>
              (id.toByteArray.extract 0 i, id.toByteArray.extract (i + 1) id.utf8ByteSize))
      ∧ (id :: (RuleId.splits id).map Prod.snd).Pairwise (fun a b =>
          b.length < a.length ∧ b.utf8ByteSize < a.utf8ByteSize)
      ∧ searchedNames id = (id :: (RuleId.splits id).map Prod.snd).filter (fun name => name ≠ "")
      ∧ (id.toList.count '/' = 1 →
          ∃ plugin rule, RuleId.splitOnce? id = some (plugin, rule)
            ∧ RuleId.splits id = [(plugin, rule)]
            ∧ ∀ registry : Registry,
                resolve (some registry) id = registry.lookUp plugin rule) := by
  have hlonger : (RuleId.splits id).Pairwise (fun a b =>
      a.1.length < b.1.length ∧ a.1.utf8ByteSize < b.1.utf8ByteSize) := by
    refine (RuleId.pairwise_splits_join id).imp ?_
    rintro a b ⟨between, hbefore, -⟩
    rw [hbefore, RuleId.length_join, RuleId.utf8ByteSize_join]
    omega
  have hshorter : (id :: (RuleId.splits id).map Prod.snd).Pairwise (fun a b =>
      b.length < a.length ∧ b.utf8ByteSize < a.utf8ByteSize) := by
    refine (RuleId.pairwise_remainders id).imp ?_
    rintro a b ⟨before, rfl⟩
    rw [RuleId.length_join, RuleId.utf8ByteSize_join]
    omega
  refine ⟨fun plugin rule => RuleId.mem_splits, ?_, hlonger, RuleId.length_splits id,
    RuleId.bytes_splits id, hshorter, rfl, fun hsingle => ?_⟩
  · refine hlonger.imp ?_
    rintro a b ⟨hlength, -⟩ rfl
    exact lt_irrefl _ hlength
  · obtain ⟨⟨plugin, rule⟩, honce, hsplits⟩ := RuleId.splits_of_single_slash hsingle
    exact ⟨plugin, rule, honce, hsplits, resolve_of_single_slash hsplits⟩

/-- The slash behind a letter of two bytes is at offset 2, where the pair to look up is cut. -/
theorem splits_decompositions_accented :
    RuleId.splits "é/x" = [("é", "x")]
      ∧ RuleId.slashOffsets 0 "é/x".toList = [2]
      ∧ ∀ registry : Registry, resolve (some registry) "é/x" = registry.lookUp "é" "x" := by
  have hsplits : RuleId.splits "é/x" = [("é", "x")] := by decide
  obtain ⟨-, -, -, -, -, -, -, hsingle⟩ := splits_decompositions "é/x"
  obtain ⟨plugin, rule, -, hpair, hresolve⟩ := hsingle (by decide)
  obtain ⟨rfl, rfl⟩ := Prod.mk.inj (List.singleton_inj.1 (hpair.symm.trans hsplits))
  exact ⟨hsplits, by decide, hresolve⟩

end LintConfig
