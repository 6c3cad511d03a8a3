import Mathlib
import LintConfig.Json

/-!
# Objects as maps

A tree lists the members of an object in some order and may name one of them twice.  The value that
is meant does neither: `Json.Value` takes an object for a map from names to values, and `Json.value`
reads it off a tree, the last of equally named members counting.

* `value_sort`: sorting a tree keeps its value.
* `sorted_sort`: a sorted tree has the members of every object in the order of their names.
* **`eq_of_value_eq`**: trees like that are the same if they have the same value.

So sorting picks one tree for each value, whatever order it was written in (`sort_eq_sort_iff`).
-/

namespace LintConfig

namespace Json

/-- A JSON value with its objects as maps: what a name is bound to, in no order. -/
inductive Value where
  | null
  | bool (b : Bool)
  | num (n : Number)
  | str (s : String)
  | arr (items : List Value)
  | obj (bound : String → Option Value)

mutual

/-- The value that a tree is written for. -/
def value : Json → Value
  | null => .null
  | bool b => .bool b
  | num n => .num n
  | str s => .str s
  | arr items => .arr (itemValues items)
  | obj members => .obj (bindings members)

/-- The values of the items of an array. -/
def itemValues : List Json → List Value
  | [] => []
  | v :: rest => v.value :: itemValues rest

/-- What a list of members binds a name to: the value of the last member with this name. -/
def bindings : List (String × Json) → String → Option Value
  | [], _ => none
  | (k, v) :: rest, name => (bindings rest name).or (if k = name then some v.value else none)

end

/-! ## What members bind -/

section Bindings

variable {k name : String} {v : Json} {members : List (String × Json)}

lemma bindings_eq_none_iff : bindings members name = none ↔ name ∉ members.map Prod.fst := by
  induction members with
  | nil => simp [bindings]
  | cons m rest ih =>
      rw [bindings, Option.or_eq_none_iff, ih, List.map_cons, List.mem_cons, not_or, and_comm]
      refine and_congr_left' ?_
      by_cases hm : m.1 = name
      · simp [hm]
      · simp [hm, Ne.symm hm]

lemma bindings_cons_of_ne (h : k ≠ name) :
    bindings ((k, v) :: members) name = bindings members name := by
  rw [bindings, if_neg h, Option.or_none]

lemma bindings_cons_self (h : k ∉ members.map Prod.fst) :
    bindings ((k, v) :: members) k = some v.value := by
  rw [bindings, bindings_eq_none_iff.2 h, if_pos rfl, Option.none_or]

/-- Where no name is repeated, the members are the bindings. -/
lemma bindings_eq_some_iff (h : (members.map Prod.fst).Nodup) {x : Value} :
    bindings members name = some x ↔ ∃ v, (name, v) ∈ members ∧ v.value = x := by
  induction members with
  | nil => simp [bindings]
  | cons m rest ih =>
      obtain ⟨k, w⟩ := m
      rw [List.map_cons, List.nodup_cons] at h
      by_cases hk : k = name
      · subst hk
        have hrest : ∀ v, (k, v) ∉ rest := fun v hv => h.1 (List.mem_map.2 ⟨_, hv, rfl⟩)
        rw [bindings_cons_self h.1]
        simp [hrest]
      · rw [bindings_cons_of_ne hk, ih h.2]
        simp [Ne.symm hk]

/-- **The order of members does not matter** where no name is repeated. -/
theorem bindings_perm {members' : List (String × Json)} (hperm : members.Perm members')
    (h : (members.map Prod.fst).Nodup) : bindings members = bindings members' := by
  have h' : (members'.map Prod.fst).Nodup := (hperm.map Prod.fst).nodup_iff.1 h
  funext name
  refine Option.ext fun x => ?_
  rw [bindings_eq_some_iff h, bindings_eq_some_iff h']
  simp only [hperm.mem_iff]

end Bindings

/-! ## Sorting members -/

/-- The names of members go up. -/
abbrev NamesIncrease (members : List (String × Json)) : Prop :=
  (members.map Prod.fst).Pairwise (· < ·)

section PutMember

variable {k : String} {v : Json} {members : List (String × Json)}

lemma mem_putMember {m : String × Json} (h : m ∈ putMember k v members) :
    m = (k, v) ∨ m ∈ members := by
  induction members with
  | nil => exact Or.inl (List.mem_singleton.1 h)
  | cons first rest ih =>
      rw [putMember] at h
      split_ifs at h with hlt heq
      · exact List.mem_cons.1 h
      · rcases List.mem_cons.1 h with rfl | hrest
        · exact Or.inl rfl
        · exact Or.inr (List.mem_cons_of_mem _ hrest)
      · rcases List.mem_cons.1 h with rfl | hrest
        · exact Or.inr List.mem_cons_self
        · exact (ih hrest).imp_right (List.mem_cons_of_mem _)

lemma NamesIncrease.notMem {first : String × Json} (h : NamesIncrease (first :: members)) :
    first.1 ∉ members.map Prod.fst := fun hmem =>
  String.lt_irrefl _ ((List.pairwise_cons.1 h).1 _ hmem)

/-- A new member is put in front of the greater names. -/
lemma namesIncrease_putMember (h : NamesIncrease members) :
    NamesIncrease (putMember k v members) := by
  induction members with
  | nil => exact List.pairwise_singleton _ _
  | cons first rest ih =>
      obtain ⟨hfirst, hrest⟩ := List.pairwise_cons.1 h
      rw [putMember]
      split_ifs with hlt heq
      · refine List.pairwise_cons.2 ⟨fun name hname => ?_, h⟩
        rcases List.mem_cons.1 hname with rfl | hname
        · exact hlt
        · exact String.lt_trans hlt (hfirst name hname)
      · subst heq
        exact List.pairwise_cons.2 ⟨hfirst, hrest⟩
      · refine List.pairwise_cons.2 ⟨fun name hname => ?_, ih hrest⟩
        obtain ⟨m, hm, rfl⟩ := List.mem_map.1 hname
        rcases mem_putMember hm with rfl | hm
        · exact lt_of_le_of_ne (not_lt.1 hlt) (Ne.symm heq)
        · exact hfirst _ (List.mem_map_of_mem hm)

lemma bindings_putMember (h : NamesIncrease members) (name : String) :
    bindings (putMember k v members) name
      = if k = name then some v.value else bindings members name := by
  induction members with
  | nil => rw [putMember, bindings]; rfl
  | cons first rest ih =>
      obtain ⟨j, w⟩ := first
      obtain ⟨hfirst, hrest⟩ := List.pairwise_cons.1 h
      rw [putMember]
      by_cases hname : k = name
      · subst hname
        rw [if_pos rfl]
        split_ifs with hlt heq
        · refine bindings_cons_self fun hmem => ?_
          rcases List.mem_cons.1 hmem with rfl | hmem
          · exact String.lt_irrefl _ hlt
          · exact String.lt_asymm hlt (hfirst _ hmem)
        · subst heq
          exact bindings_cons_self h.notMem
        · rw [bindings_cons_of_ne (Ne.symm heq), ih hrest, if_pos rfl]
      · rw [if_neg hname]
        split_ifs with hlt heq
        · exact bindings_cons_of_ne hname
        · rw [bindings_cons_of_ne hname, bindings_cons_of_ne (heq ▸ hname)]
        · rw [bindings, bindings, ih hrest, if_neg hname]

end PutMember

section SortMembers

variable {members sorted : List (String × Json)}

lemma namesIncrease_foldl (h : NamesIncrease sorted) :
    NamesIncrease (members.foldl (fun acc m => putMember m.1 m.2 acc) sorted) := by
  induction members generalizing sorted with
  | nil => exact h
  | cons m rest ih => exact ih (namesIncrease_putMember h)

lemma namesIncrease_sortMembers : NamesIncrease (sortMembers members) :=
  namesIncrease_foldl List.Pairwise.nil

/-- Members that are put later decide. -/
lemma bindings_foldl (h : NamesIncrease sorted) (name : String) :
    bindings (members.foldl (fun acc m => putMember m.1 m.2 acc) sorted) name
      = (bindings members name).or (bindings sorted name) := by
  induction members generalizing sorted with
  | nil => rw [List.foldl_nil, bindings, Option.none_or]
  | cons m rest ih =>
      rw [List.foldl_cons, ih (namesIncrease_putMember h), bindings_putMember h, bindings,
        Option.or_assoc]
      split_ifs <;> simp

lemma bindings_sortMembers : bindings (sortMembers members) = bindings members := by
  funext name
  rw [sortMembers, bindings_foldl List.Pairwise.nil, bindings, Option.or_none]

lemma mem_foldl_putMember {m : String × Json}
    (h : m ∈ members.foldl (fun acc m => putMember m.1 m.2 acc) sorted) :
    m ∈ members ∨ m ∈ sorted := by
  induction members generalizing sorted with
  | nil => exact Or.inr h
  | cons first rest ih =>
      rcases ih h with hrest | hsorted
      · exact Or.inl (List.mem_cons_of_mem _ hrest)
      · rcases mem_putMember hsorted with rfl | hsorted
        · exact Or.inl List.mem_cons_self
        · exact Or.inr hsorted

/-- Sorting adds no member. -/
lemma mem_of_mem_sortMembers {m : String × Json} (h : m ∈ sortMembers members) : m ∈ members :=
  (mem_foldl_putMember h).resolve_right List.not_mem_nil

lemma sortedValues_iff : SortedValues members ↔ ∀ m ∈ members, m.2.Sorted := by
  induction members with
  | nil => simp [SortedValues]
  | cons m rest ih => simp [SortedValues, ih]

end SortMembers

/-! ## Sorting values -/

mutual

/-- **Sorting keeps the value.** -/
theorem value_sort : ∀ v : Json, v.sort.value = v.value
  | null | bool _ | num _ | str _ => rfl
  | arr items => by rw [sort, value, itemValues_sortItems items, value]
  | obj members => by
      rw [sort, object, value, bindings_sortMembers, bindings_sortValues members, value]

lemma itemValues_sortItems : ∀ items : List Json, itemValues (sortItems items) = itemValues items
  | [] => rfl
  | v :: rest => by
      rw [sortItems, itemValues, value_sort v, itemValues_sortItems rest, itemValues]

lemma bindings_sortValues : ∀ members : List (String × Json),
    bindings (sortValues members) = bindings members
  | [] => rfl
  | (k, v) :: rest => by
      funext name
      rw [sortValues, bindings, value_sort v, bindings_sortValues rest, bindings]

end

mutual

/-- **In a sorted tree every object has its members in the order of their names.** -/
theorem sorted_sort : ∀ v : Json, v.sort.Sorted
  | null | bool _ | num _ | str _ => trivial
  | arr items => sortedItems_sortItems items
  | obj members => by
      rw [sort, object, Sorted]
      refine ⟨namesIncrease_sortMembers, sortedValues_iff.2 fun m hm => ?_⟩
      exact sortedValues_iff.1 (sortedValues_sortValues members) m (mem_of_mem_sortMembers hm)

lemma sortedItems_sortItems : ∀ items : List Json, SortedItems (sortItems items)
  | [] => trivial
  | v :: rest => ⟨sorted_sort v, sortedItems_sortItems rest⟩

lemma sortedValues_sortValues : ∀ members : List (String × Json),
    SortedValues (sortValues members)
  | [] => trivial
  | (_, v) :: rest => ⟨sorted_sort v, sortedValues_sortValues rest⟩

end

/-! ## One tree for each value -/

/-- The first name of a list is the least that it binds. -/
lemma NamesIncrease.le_of_bindings {first : String × Json} {members : List (String × Json)}
    (h : NamesIncrease (first :: members)) {name : String}
    (hbound : bindings (first :: members) name ≠ none) : first.1 ≤ name := by
  have hmem : name ∈ (first :: members).map Prod.fst := by
    by_contra hnot
    exact hbound (bindings_eq_none_iff.2 hnot)
  rcases List.mem_cons.1 hmem with rfl | hmem
  · exact le_refl _
  · exact le_of_lt ((List.pairwise_cons.1 h).1 _ hmem)

mutual

/-- **A value has one sorted tree.** -/
theorem eq_of_value_eq : ∀ v w : Json, v.Sorted → w.Sorted → v.value = w.value → v = w
  | null, w, _, _, h => by
      cases w with
      | null => rfl
      | _ => exact Value.noConfusion h
  | bool b, w, _, _, h => by
      cases w with
      | bool c => rw [Value.bool.inj h]
      | _ => exact Value.noConfusion h
  | num m, w, _, _, h => by
      cases w with
      | num n => rw [Value.num.inj h]
      | _ => exact Value.noConfusion h
  | str s, w, _, _, h => by
      cases w with
      | str t => rw [Value.str.inj h]
      | _ => exact Value.noConfusion h
  | arr items, w, hv, hw, h => by
      cases w with
      | arr items' => rw [eq_of_itemValues_eq items items' hv hw (Value.arr.inj h)]
      | _ => exact Value.noConfusion h
  | obj members, w, hv, hw, h => by
      cases w with
      | obj members' =>
          rw [eq_of_bindings_eq members members' hv.1 hw.1 hv.2 hw.2 (Value.obj.inj h)]
      | _ => exact Value.noConfusion h

lemma eq_of_itemValues_eq : ∀ items items' : List Json, SortedItems items → SortedItems items' →
    itemValues items = itemValues items' → items = items'
  | [], [], _, _, _ => rfl
  | [], _ :: _, _, _, h => absurd h.symm (List.cons_ne_nil _ _)
  | _ :: _, [], _, _, h => absurd h (List.cons_ne_nil _ _)
  | v :: rest, w :: rest', hv, hw, h => by
      obtain ⟨hfirst, hrest⟩ := List.cons.inj h
      rw [eq_of_value_eq v w hv.1 hw.1 hfirst, eq_of_itemValues_eq rest rest' hv.2 hw.2 hrest]

/-- The first members have the same name, which is the least one that is bound; the others bind the
same without it. -/
lemma eq_of_bindings_eq : ∀ members members' : List (String × Json), NamesIncrease members →
    NamesIncrease members' → SortedValues members → SortedValues members' →
    bindings members = bindings members' → members = members'
  | [], [], _, _, _, _, _ => rfl
  | [], (j, w) :: rest', _, hj, _, _, h => by
      have hself := bindings_cons_self (v := w) hj.notMem
      rw [← h] at hself
      exact nomatch hself
  | (k, v) :: rest, [], hk, _, _, _, h => by
      have hself := bindings_cons_self (v := v) hk.notMem
      rw [h] at hself
      exact nomatch hself
  | (k, v) :: rest, (j, w) :: rest', hk, hj, hv, hw, h => by
      have hself : bindings ((k, v) :: rest) k = some v.value := bindings_cons_self hk.notMem
      have hself' : bindings ((j, w) :: rest') j = some w.value := bindings_cons_self hj.notMem
      have hjk : j ≤ k := hj.le_of_bindings (by rw [← h, hself]; exact Option.some_ne_none _)
      have hkj : k ≤ j := hk.le_of_bindings (by rw [h, hself']; exact Option.some_ne_none _)
      obtain rfl := le_antisymm hkj hjk
      have hvalue : v.value = w.value := Option.some.inj (by rw [← hself, h, hself'])
      have hrest : bindings rest = bindings rest' := by
        funext name
        by_cases hname : k = name
        · subst hname
          rw [bindings_eq_none_iff.2 hk.notMem, bindings_eq_none_iff.2 hj.notMem]
        · rw [← bindings_cons_of_ne (v := v) hname, h, bindings_cons_of_ne hname]
      rw [eq_of_value_eq v w hv.1 hw.1 hvalue,
        eq_of_bindings_eq rest rest' (List.pairwise_cons.1 hk).2 (List.pairwise_cons.1 hj).2 hv.2
          hw.2 hrest]

end

/-- Sorting picks one tree for each value. -/
theorem sort_eq_sort_iff {v w : Json} : v.sort = w.sort ↔ v.value = w.value := by
  constructor
  · intro h
    rw [← value_sort v, h, value_sort w]
  · intro h
    refine eq_of_value_eq _ _ (sorted_sort v) (sorted_sort w) ?_
    rw [value_sort, value_sort, h]

/-- A sorted tree is left as it is. -/
lemma sort_eq_self {v : Json} (h : v.Sorted) : v.sort = v :=
  eq_of_value_eq _ _ (sorted_sort v) h (value_sort v)

end Json

end LintConfig
