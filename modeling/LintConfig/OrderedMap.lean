/-!
# Maps in registration order

Plugins, the rules of a plugin and the entries of a configuration are all looked up by name and
listed in the order in which the names first appeared.  `OrderedMap` is that one container.

**Registration.**  `insert` puts a new key at the end; a key that is already there keeps its
place and takes the new value.  `keys_insert` says so of the keys, `get?_insert` of the lookups.

**Uniqueness.**  A key is listed once (`nodup`), so looking up and iterating always speak of the
same value: `get?_eq_some_iff` and `get?_eq_none_iff`.

**Lists of pairs.**  `ofList` inserts them one after the other; with different keys it keeps the list
(`entries_ofList`), and it has no other keys (`mem_keys_ofList`).
-/

namespace LintConfig

universe u v

/-- A finite map that lists its entries in the order in which their keys were first inserted. -/
structure OrderedMap (α : Type u) (β : Type v) where
  /-- The entries, oldest key first. -/
  entries : List (α × β)
  /-- No key is listed twice. -/
  nodup : (entries.map Prod.fst).Nodup

namespace OrderedMap

variable {α : Type u} {β : Type v}

/-- The map without entries. -/
def empty : OrderedMap α β := ⟨[], by simp⟩

instance : EmptyCollection (OrderedMap α β) := ⟨empty⟩

instance : Inhabited (OrderedMap α β) := ⟨empty⟩

/-- The keys, oldest first. -/
def keys (m : OrderedMap α β) : List α := m.entries.map Prod.fst

/-- The values, in the order of their keys. -/
def values (m : OrderedMap α β) : List β := m.entries.map Prod.snd

/-- The number of keys. -/
def size (m : OrderedMap α β) : Nat := m.entries.length

/-- Whether nothing has been inserted. -/
def isEmpty (m : OrderedMap α β) : Bool := m.entries.isEmpty

@[simp] theorem keys_empty : (empty : OrderedMap α β).keys = [] := rfl

section Lookup

variable [DecidableEq α]

/-- The value that a list of entries gives to a key: that of the first entry with this key. -/
def find (k : α) : List (α × β) → Option β
  | [] => none
  | (k', v) :: rest => if k' = k then some v else find k rest

/-- The value bound to a key. -/
def get? (m : OrderedMap α β) (k : α) : Option β := find k m.entries

/-- Whether a key is bound. -/
def contains (m : OrderedMap α β) (k : α) : Bool := (m.get? k).isSome

/-- Binds a key in a list of entries: in place where it is listed, at the end otherwise. -/
def put (k : α) (v : β) : List (α × β) → List (α × β)
  | [] => [(k, v)]
  | (k', v') :: rest => if k' = k then (k, v) :: rest else (k', v') :: put k v rest

theorem map_fst_put (k : α) (v : β) (l : List (α × β)) :
    (put k v l).map Prod.fst
      = if k ∈ l.map Prod.fst then l.map Prod.fst else l.map Prod.fst ++ [k] := by
  induction l with
  | nil => simp [put]
  | cons e rest ih =>
    obtain ⟨k', v'⟩ := e
    by_cases h : k' = k
    · simp [put, h]
    · have h' : k ≠ k' := fun e => h e.symm
      by_cases hk : k ∈ rest.map Prod.fst
      · simp only [put, h, if_false, List.map_cons, ih, hk, if_true, List.mem_cons, or_true]
      · simp only [put, h, if_false, List.map_cons, ih, hk, List.mem_cons, h', or_self,
          List.cons_append]

theorem find_put (k j : α) (v : β) (l : List (α × β)) :
    find j (put k v l) = if k = j then some v else find j l := by
  induction l with
  | nil => simp [put, find]
  | cons e rest ih =>
    obtain ⟨k', v'⟩ := e
    by_cases h : k' = k
    · subst h
      by_cases hj : k' = j <;> simp [put, find, hj]
    · by_cases hj : k' = j
      · subst hj
        have h' : ¬ k = k' := fun e => h e.symm
        simp [put, h, h', find]
      · simp [put, h, find, hj, ih]

/-- Binds a key: a new key is listed last, a known one keeps its place. -/
def insert (m : OrderedMap α β) (k : α) (v : β) : OrderedMap α β where
  entries := put k v m.entries
  nodup := by
    rw [map_fst_put]
    split
    · exact m.nodup
    · next h =>
      rw [List.nodup_append]
      refine ⟨m.nodup, by simp, ?_⟩
      intro a ha b hb
      simp only [List.mem_singleton] at hb
      subst hb
      exact fun e => h (e ▸ ha)

/-- Unbinds a key; the others keep their places. -/
def erase (m : OrderedMap α β) (k : α) : OrderedMap α β where
  entries := m.entries.filter (fun e => e.1 ≠ k)
  nodup := m.nodup.sublist ((List.filter_sublist (l := m.entries)).map Prod.fst)

/-- Inserts the pairs of a list, first to last. -/
def ofList (l : List (α × β)) : OrderedMap α β := l.foldl (fun m e => m.insert e.1 e.2) empty

@[simp] theorem get?_empty (k : α) : (empty : OrderedMap α β).get? k = none := rfl

/-- A new key comes last, a known one stays where it is. -/
theorem keys_insert (m : OrderedMap α β) (k : α) (v : β) :
    (m.insert k v).keys = if k ∈ m.keys then m.keys else m.keys ++ [k] :=
  map_fst_put k v m.entries

/-- The last insertion of a key decides its value, and no other key is touched. -/
theorem get?_insert (m : OrderedMap α β) (k j : α) (v : β) :
    (m.insert k v).get? j = if k = j then some v else m.get? j :=
  find_put k j v m.entries

theorem find_eq_some_iff {l : List (α × β)} (h : (l.map Prod.fst).Nodup) {k : α} {v : β} :
    find k l = some v ↔ (k, v) ∈ l := by
  induction l with
  | nil => simp [find]
  | cons e rest ih =>
    obtain ⟨k', v'⟩ := e
    simp only [List.map_cons, List.nodup_cons] at h
    by_cases hk : k' = k
    · subst hk
      have : (k', v) ∉ rest := fun hm => h.1 (List.mem_map_of_mem (f := Prod.fst) hm)
      simp [find, this, eq_comm]
    · have hk' : k ≠ k' := fun e => hk e.symm
      simp [find, hk, hk', ih h.2]

/-- Looking a key up finds exactly the entry that iterating lists under it. -/
theorem get?_eq_some_iff (m : OrderedMap α β) {k : α} {v : β} :
    m.get? k = some v ↔ (k, v) ∈ m.entries :=
  find_eq_some_iff m.nodup

/-- A key under which something is found is listed. -/
theorem mem_keys_of_get? {m : OrderedMap α β} {k : α} {v : β} (h : m.get? k = some v) :
    k ∈ m.keys :=
  List.mem_map_of_mem (f := Prod.fst) ((get?_eq_some_iff m).1 h)

/-- A lookup fails exactly for the keys that iterating does not list. -/
theorem get?_eq_none_iff (m : OrderedMap α β) {k : α} : m.get? k = none ↔ k ∉ m.keys := by
  constructor
  · intro h hk
    obtain ⟨⟨k', v⟩, hm, rfl⟩ := List.mem_map.1 hk
    rw [(get?_eq_some_iff m).2 hm] at h
    exact nomatch h
  · intro h
    cases hg : m.get? k with
    | none => rfl
    | some v => exact absurd (mem_keys_of_get? hg) h

/-- A key is listed exactly when looking it up finds something. -/
theorem mem_keys_iff (m : OrderedMap α β) {k : α} : k ∈ m.keys ↔ (m.get? k).isSome := by
  rw [← Option.ne_none_iff_isSome, Ne, get?_eq_none_iff, Decidable.not_not]

/-- Unbinding a key removes that key alone from the listing. -/
theorem keys_erase (m : OrderedMap α β) (k : α) :
    (m.erase k).keys = m.keys.filter (fun j => j ≠ k) := by
  simp only [keys, erase, List.filter_map]
  rfl

/-- Unbinding a key that is not bound changes nothing. -/
theorem erase_of_notMem (m : OrderedMap α β) {k : α} (h : k ∉ m.keys) : m.erase k = m := by
  have hfilter : m.entries.filter (fun e => e.1 ≠ k) = m.entries := by
    rw [List.filter_eq_self]
    intro e he
    exact decide_eq_true fun heq => h (heq ▸ List.mem_map_of_mem (f := Prod.fst) he)
  cases m
  simp only [erase, mk.injEq]
  exact hfilter

theorem find_filter (k j : α) (l : List (α × β)) :
    find j (l.filter (fun e => e.1 ≠ k)) = if j = k then none else find j l := by
  induction l with
  | nil => simp [find]
  | cons e rest ih =>
    obtain ⟨k', v'⟩ := e
    by_cases h : k' = k
    · subst h
      by_cases hj : j = k'
      · subst hj; simpa using ih
      · have hj' : ¬ k' = j := fun e => hj e.symm
        simpa [find, hj, hj'] using ih
    · by_cases hj : k' = j
      · subst hj; simp [find, h]
      · simpa [h, find, hj] using ih

/-- After unbinding a key it is unbound, and every other key keeps its value. -/
theorem get?_erase (m : OrderedMap α β) (k j : α) :
    (m.erase k).get? j = if j = k then none else m.get? j :=
  find_filter k j m.entries

theorem put_of_notMem {k : α} {l : List (α × β)} (h : k ∉ l.map Prod.fst) (v : β) :
    put k v l = l ++ [(k, v)] := by
  induction l with
  | nil => rfl
  | cons e rest ih =>
    obtain ⟨k', v'⟩ := e
    simp only [List.map_cons, List.mem_cons, not_or] at h
    have hk : ¬ k' = k := fun e => h.1 e.symm
    simp only [put, hk, if_false, ih h.2, List.cons_append]

theorem entries_foldl_insert (m : OrderedMap α β) (l : List (α × β))
    (h : ((m.entries ++ l).map Prod.fst).Nodup) :
    (l.foldl (fun m e => m.insert e.1 e.2) m).entries = m.entries ++ l := by
  induction l generalizing m with
  | nil => simp
  | cons e rest ih =>
    have hnew : e.1 ∉ m.entries.map Prod.fst := by
      intro hm
      rw [List.map_append, List.map_cons, List.nodup_append] at h
      exact h.2.2 _ hm _ (List.mem_cons_self ..) rfl
    have hinsert : (m.insert e.1 e.2).entries = m.entries ++ [e] := put_of_notMem hnew e.2
    rw [List.foldl_cons, ih, hinsert, List.append_assoc, List.singleton_append]
    rwa [hinsert, List.append_assoc, List.singleton_append]

/-- Pairs with different keys are listed as they are given. -/
theorem entries_ofList {l : List (α × β)} (h : (l.map Prod.fst).Nodup) :
    (ofList l).entries = l :=
  entries_foldl_insert empty l h

/-- A map is built again from its entries. -/
theorem ofList_entries (m : OrderedMap α β) : ofList m.entries = m := by
  have h : (ofList m.entries).entries = m.entries := entries_ofList m.nodup
  cases hm : ofList m.entries with
  | mk entries hnodup =>
    rw [hm] at h
    subst h
    rfl

theorem mem_keys_foldl_insert (m : OrderedMap α β) (l : List (α × β)) {k : α} :
    k ∈ (l.foldl (fun m e => m.insert e.1 e.2) m).keys ↔ k ∈ m.keys ∨ k ∈ l.map Prod.fst := by
  induction l generalizing m with
  | nil => simp
  | cons e rest ih =>
    rw [List.foldl_cons, ih, keys_insert, List.map_cons, List.mem_cons, ← or_assoc]
    by_cases h : e.1 ∈ m.keys
    · have hk : k = e.1 → k ∈ m.keys := fun heq => heq ▸ h
      simp only [h, if_true]
      exact or_congr_left ⟨Or.inl, fun hor => hor.elim id hk⟩
    · simp only [h, if_false, List.mem_append, List.mem_singleton]

/-- The keys of a map are those of the pairs that were inserted. -/
theorem mem_keys_ofList {l : List (α × β)} {k : α} :
    k ∈ (ofList l).keys ↔ k ∈ l.map Prod.fst := by
  rw [ofList, mem_keys_foldl_insert]
  simp

end Lookup

/-- Applies a function to every value, keeping keys and order. -/
def mapValues {γ : Type v} (f : β → γ) (m : OrderedMap α β) : OrderedMap α γ where
  entries := m.entries.map (fun e => (e.1, f e.2))
  nodup := by simpa [List.map_map, Function.comp_def] using m.nodup

end OrderedMap

end LintConfig
