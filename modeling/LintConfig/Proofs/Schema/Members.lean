import Mathlib.Data.List.Forall2
import LintConfig.Schema.Reading

/-!
# Reading member by member

The readers of lists of schemas, named schemas and members of a schema object recurse into the
values that they find, so they cannot be maps in their definition.  They are maps nevertheless, of
lists with a reader that may fail, and here each is shown to be one.  `partOfMember?` and
`dependency?` are the readers of one element.

Of such a map, `exists_of_mem_mapM` says where an element comes from and `mem_of_mem_mapM` where one
goes, `getElem?_mapM` what stands at a position, `isSome_mapM_iff` when there is a result, and
`mapM_eq_some_iff` which one.
-/

namespace LintConfig

/-! ## Maps that may fail -/

section MapM

variable {α β : Type} {f : α → Option β} {l : List α} {found : List β}

lemma mapM_cons_eq_some_iff {a : α} :
    (a :: l).mapM f = some found
      ↔ ∃ b rest, f a = some b ∧ l.mapM f = some rest ∧ found = b :: rest := by
  rw [List.mapM_cons]
  cases f a with
  | none => simp
  | some b =>
      cases l.mapM f with
      | none => simp
      | some rest => simp [eq_comm]

lemma mapM_eq_some_iff :
    l.mapM f = some found ↔ List.Forall₂ (fun a b => f a = some b) l found := by
  induction l generalizing found with
  | nil =>
      rw [List.forall₂_nil_left_iff]
      exact ⟨fun h => (Option.some.inj h).symm, fun h => congrArg some h.symm⟩
  | cons a l ih =>
      rw [mapM_cons_eq_some_iff, List.forall₂_cons_left_iff]
      simp only [ih]

lemma exists_of_mem_mapM (h : l.mapM f = some found) {b : β} (hb : b ∈ found) :
    ∃ a ∈ l, f a = some b := by
  induction l generalizing found with
  | nil =>
      obtain rfl := Option.some.inj h
      exact absurd hb List.not_mem_nil
  | cons first rest ih =>
      obtain ⟨b', found', hfirst, hrest, rfl⟩ := mapM_cons_eq_some_iff.1 h
      rcases List.mem_cons.1 hb with rfl | hb
      · exact ⟨first, List.mem_cons_self, hfirst⟩
      · obtain ⟨a, ha, hfound⟩ := ih hrest hb
        exact ⟨a, List.mem_cons_of_mem first ha, hfound⟩

lemma mem_of_mem_mapM (h : l.mapM f = some found) {a : α} (ha : a ∈ l) {b : β}
    (hb : f a = some b) : b ∈ found := by
  induction l generalizing found with
  | nil => exact absurd ha List.not_mem_nil
  | cons first rest ih =>
      obtain ⟨b', found', hfirst, hrest, rfl⟩ := mapM_cons_eq_some_iff.1 h
      rcases List.mem_cons.1 ha with rfl | ha
      · obtain rfl := Option.some.inj (hfirst.symm.trans hb)
        exact List.mem_cons_self
      · exact List.mem_cons_of_mem b' (ih hrest ha)

lemma getElem?_mapM (h : l.mapM f = some found) (i : Nat) : found[i]? = l[i]?.bind f := by
  induction l generalizing found i with
  | nil =>
      obtain rfl := Option.some.inj h
      rfl
  | cons first rest ih =>
      obtain ⟨b, found', hfirst, hrest, rfl⟩ := mapM_cons_eq_some_iff.1 h
      cases i with
      | zero => exact hfirst.symm
      | succ i => exact ih hrest i

lemma isSome_mapM_iff : (l.mapM f).isSome ↔ ∀ a ∈ l, (f a).isSome := by
  induction l with
  | nil => exact ⟨fun _ a ha => absurd ha List.not_mem_nil, fun _ => rfl⟩
  | cons first rest ih =>
      rw [List.forall_mem_cons, ← ih, List.mapM_cons]
      cases f first with
      | none => simp
      | some b =>
          cases rest.mapM f with
          | none => simp
          | some found => simp

end MapM

/-! ## Lookup -/

lemma Json.mem_of_lookup {members : List (String × Json)} {name : String} {v : Json}
    (h : lookup name members = some v) : (name, v) ∈ members := by
  induction members with
  | nil => exact nomatch h
  | cons member rest ih =>
      obtain ⟨k, w⟩ := member
      rw [lookup] at h
      split_ifs at h with hk
      · obtain rfl := Option.some.inj h
        rw [hk]
        exact List.mem_cons_self
      · exact List.mem_cons_of_mem _ (ih h)

/-! ## The readers -/

namespace Schema

/-- The part that a member of a schema object is read into. -/
def partOfMember? (s : Setting) (siblings : List (String × Json)) (keyword : String) (v : Json) :
    Option Part :=
  if !s.knows keyword then some .silent
  else
    match Part.holding? s.draft siblings keyword v with
    | some build => ((s.enter? v).bind fun s => ofJson? s v).map build
    | none =>
      match keyword with
      | "allOf" => (listOfJson? s v).map fun l => .constraint (all l)
      | "anyOf" => (listOfJson? s v).map fun l => .constraint (anyOf l)
      | "oneOf" => (listOfJson? s v).map fun l => .constraint (oneOf l)
      | "items" =>
        match v with
        | .arr schemas => (listOfItems? s schemas).map fun l => .constraint (firstItems l)
        | _ => some .silent
      | "properties" => (namedOfJson? s v).map .properties
      | "patternProperties" => ((namedOfJson? s v).bind withPatterns?).map .patternProperties
      | "prefixItems" => (listOfJson? s v).map fun l => .constraint (firstItems l)
      | "dependencies" => (dependenciesOfJson? s true v).map fun l => .constraint (all l)
      | "dependentSchemas" => (dependenciesOfJson? s false v).map fun l => .constraint (all l)
      | keyword => Part.plain? s siblings keyword v

section Mapping

variable (s : Setting)

/-- One member and the rest.  The value is taken apart since the recursion goes into it. -/
lemma partsOfMembers?_cons (siblings : List (String × Json)) (keyword : String) (v : Json)
    (rest : List (String × Json)) :
    partsOfMembers? s siblings ((keyword, v) :: rest)
      = match partOfMember? s siblings keyword v, partsOfMembers? s siblings rest with
        | some part, some parts => some (part :: parts)
        | _, _ => none := by
  cases v with
  | null | bool _ | num _ | str _ | arr _ | obj _ => rfl

lemma partsOfMembers?_eq_mapM (siblings members : List (String × Json)) :
    partsOfMembers? s siblings members
      = members.mapM fun member => partOfMember? s siblings member.1 member.2 := by
  induction members with
  | nil => rfl
  | cons member rest ih =>
      obtain ⟨keyword, v⟩ := member
      rw [List.mapM_cons, ← ih, partsOfMembers?_cons]
      cases partOfMember? s siblings keyword v with
      | none => rfl
      | some part =>
          cases partsOfMembers? s siblings rest with
          | none => rfl
          | some parts => rfl

lemma listOfItems?_eq_mapM (items : List Json) :
    listOfItems? s items = items.mapM fun w => (s.enter? w).bind fun s => ofJson? s w := by
  induction items with
  | nil => rfl
  | cons w rest ih =>
      rw [List.mapM_cons, ← ih, listOfItems?]
      cases (s.enter? w).bind fun s => ofJson? s w with
      | none => rfl
      | some schema =>
          cases listOfItems? s rest with
          | none => rfl
          | some schemas => rfl

lemma namedOfMembers?_eq_mapM (members : List (String × Json)) :
    namedOfMembers? s members
      = members.mapM fun member =>
          ((s.enter? member.2).bind fun s => ofJson? s member.2).map (member.1, ·) := by
  induction members with
  | nil => rfl
  | cons member rest ih =>
      obtain ⟨name, w⟩ := member
      rw [List.mapM_cons, ← ih, namedOfMembers?]
      cases (s.enter? w).bind fun s => ofJson? s w with
      | none => rfl
      | some schema =>
          cases namedOfMembers? s rest with
          | none => rfl
          | some schemas => rfl

lemma withPatterns?_eq_mapM (named : List (String × Schema)) :
    withPatterns? named
      = named.mapM fun e => (PropertyPattern.ofSource? e.1).map (·, e.2) := by
  induction named with
  | nil => rfl
  | cons e rest ih =>
      obtain ⟨source, schema⟩ := e
      rw [List.mapM_cons, ← ih, withPatterns?]
      cases PropertyPattern.ofSource? source with
      | none => rfl
      | some p =>
          cases withPatterns? rest with
          | none => rfl
          | some schemas => rfl

/-- What is asked for beside a member, by a list of names or by a schema. -/
def dependency? (s : Setting) (lists : Bool) (w : Json) : Option Schema :=
  match lists, w with
  | true, .arr items => (Keyword.names? (.arr items)).map required
  | _, w => (s.enter? w).bind fun s => ofJson? s w

lemma dependenciesOfMembers?_cons (lists : Bool) (name : String) (w : Json)
    (rest : List (String × Json)) :
    dependenciesOfMembers? s lists ((name, w) :: rest)
      = match dependency? s lists w, dependenciesOfMembers? s lists rest with
        | some schema, some schemas => some (ifPresent name schema :: schemas)
        | _, _ => none := by
  cases lists with
  | false | true =>
      cases w with
      | null | bool _ | num _ | str _ | arr _ | obj _ => rfl

lemma dependenciesOfMembers?_eq_mapM (lists : Bool) (members : List (String × Json)) :
    dependenciesOfMembers? s lists members
      = members.mapM fun member => (dependency? s lists member.2).map (ifPresent member.1) := by
  induction members with
  | nil => rfl
  | cons member rest ih =>
      obtain ⟨name, w⟩ := member
      rw [List.mapM_cons, ← ih, dependenciesOfMembers?_cons]
      cases dependency? s lists w with
      | none => rfl
      | some schema =>
          cases dependenciesOfMembers? s lists rest with
          | none => rfl
          | some schemas => rfl

end Mapping

end Schema

end LintConfig
