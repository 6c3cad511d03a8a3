import Mathlib
import LintConfig.FileTree

/-!
# Walking through trees and writing into them

**Walking.**  A walk is a sequence of single steps (`step?`, `walk?_cons`), and the place that it
comes to is determined by the steps of the path, whatever there is in the tree
(`eq_foldl_of_walk?`).  So two spellings of a path that both lead somewhere lead to the same place:
every tree has `IgnoresSpelling`.

**Entries of a directory.**  `locate?_join` and `writable?_join` say what the name of an entry
behind the path of a directory comes to.

**Writing.**  `WrittenAt` says that a tree differs from another one in a file at one place.  Every
walk through the old tree is one through the new tree too (`WrittenAt.walk?_mono`).
-/

namespace LintConfig

/-- Two spellings of a path under which a text can be read give the same text. -/
def FileView.IgnoresSpelling (view : FileView) : Prop :=
  ∀ p q : Path, p.steps = q.steps → ∀ text text', view.read? p = some text →
    view.read? q = some text' → text = text'

namespace FileTree

/-- The place that one piece of a path leads to from a place, if there is something. -/
def step? (t : FileTree) (place : List String) (piece : List Char) : Option (List String) :=
  if t.isDirectory place then
    if piece = [] ∨ piece = ['.'] then some place
    else if piece = ['.', '.'] then some place.dropLast
    else if (t.node? (place ++ [String.ofList piece])).isSome then
      some (place ++ [String.ofList piece])
    else none
  else none

/-- Where a step leads from a place, whether there is something or not. -/
def follow (place : List String) : PathStep → List String
  | .root => []
  | .here => place
  | .up => place.dropLast
  | .name s => place ++ [s]

section Walking

variable {t : FileTree} {place target : List String} {piece : List Char} {ps qs : List (List Char)}

lemma walk?_nil : t.walk? place [] = some place := by
  rw [walk?]

/-- A walk is a step and a walk from there. -/
lemma walk?_cons :
    t.walk? place (piece :: ps) = (t.step? place piece).bind fun next => t.walk? next ps := by
  rw [walk?, step?]
  dsimp only
  split_ifs <;> rfl

lemma walk?_append :
    t.walk? place (ps ++ qs) = (t.walk? place ps).bind fun next => t.walk? next qs := by
  induction ps generalizing place with
  | nil => rw [List.nil_append, walk?_nil, Option.bind_some]
  | cons piece ps ih =>
      simp only [List.cons_append, walk?_cons, ih, Option.bind_assoc]

lemma walk?_append_singleton :
    t.walk? place (ps ++ [piece]) = (t.walk? place ps).bind fun next => t.step? next piece := by
  simp only [walk?_append, walk?_cons, walk?_nil, Option.bind_fun_some]

lemma isDirectory_of_step? (h : t.step? place piece = some target) :
    t.isDirectory place = true := by
  by_contra hplace
  rw [step?, if_neg hplace] at h
  exact nomatch h

lemma step?_stay (h : t.isDirectory place = true) (hpiece : piece = [] ∨ piece = ['.']) :
    t.step? place piece = some place := by
  rw [step?, if_pos h, if_pos hpiece]

/-- Where a piece leads is decided by the step that it makes. -/
lemma eq_of_step? (h : t.step? place piece = some target) :
    target = (Path.stepOf? piece).toList.foldl follow place := by
  rw [step?] at h
  rw [Path.stepOf?]
  split_ifs at h ⊢ <;> obtain rfl := Option.some.inj h <;> rfl

/-- **Where a walk leads is decided by the steps of the path.** -/
lemma eq_foldl_of_walk? (h : t.walk? place ps = some target) :
    target = (ps.filterMap Path.stepOf?).foldl follow place := by
  induction ps generalizing place with
  | nil => exact (Option.some.inj h).symm
  | cons piece ps ih =>
      rw [walk?_cons, Option.bind_eq_some_iff] at h
      obtain ⟨next, hstep, hwalk⟩ := h
      rw [ih hwalk, eq_of_step? hstep, List.filterMap_cons]
      cases Path.stepOf? piece with
      | none => rfl
      | some step => rfl

end Walking

/-! ## What a path leads to -/

section Paths

variable {t : FileTree} {p q : Path} {place place' : List String}

lemma locate?_eq_some_iff :
    t.locate? p = some place
      ↔ p.text ≠ "" ∧ t.walk? (t.origin p) (pieces '/' p.text.toList) = some place := by
  rw [locate?]
  by_cases hp : p.text = ""
  · simp [hp]
  · simp [hp]

/-- An absolute path begins with an empty piece. -/
lemma exists_pieces_of_isAbsolute (h : p.isAbsolute = true) :
    ∃ rest, pieces '/' p.text.toList = [] :: rest := by
  rw [Path.isAbsolute, decide_eq_true_iff] at h
  obtain ⟨rest, htext⟩ := List.head?_eq_some_iff.1 h
  exact ⟨_, by rw [htext, pieces_cons, if_pos rfl]⟩

/-- The steps of a path lead from the working place to where its pieces lead from its origin: the
first piece is a step like others, unless it says where one is. -/
lemma foldl_steps (t : FileTree) (p : Path) :
    p.steps.foldl follow t.workingPlace
      = ((pieces '/' p.text.toList).filterMap Path.stepOf?).foldl follow (t.origin p) := by
  have hmarked : ∀ rest : List (List Char),
      (rest.map fun piece => (Path.stepOf? piece, piece)).filterMap Prod.fst
        = rest.filterMap Path.stepOf? := by
    intro rest
    rw [List.filterMap_map]
    rfl
  rw [Path.steps, Path.markedPieces, origin]
  cases habsolute : p.isAbsolute with
  | true =>
      obtain ⟨rest, hpieces⟩ := exists_pieces_of_isAbsolute habsolute
      rw [hpieces]
      simp only [List.filterMap_cons, hmarked, Path.firstStepOf?, if_true]
      rfl
  | false =>
      cases pieces '/' p.text.toList with
      | nil => rfl
      | cons first rest =>
          simp only [List.filterMap_cons, hmarked, Path.firstStepOf?, Bool.false_eq_true, if_false]
          by_cases hfirst : first = ['.']
          · rw [if_pos hfirst, Path.stepOf?, if_pos (Or.inr hfirst)]
            rfl
          · rw [if_neg hfirst]

/-- Two spellings of a path do not lead to different places. -/
lemma locate?_unique (hsteps : p.steps = q.steps) (hp : t.locate? p = some place)
    (hq : t.locate? q = some place') : place = place' := by
  obtain ⟨-, hwalk⟩ := locate?_eq_some_iff.1 hp
  obtain ⟨-, hwalk'⟩ := locate?_eq_some_iff.1 hq
  rw [eq_foldl_of_walk? hwalk, eq_foldl_of_walk? hwalk', ← foldl_steps, ← foldl_steps, hsteps]

lemma view_eq_some_iff {entry : FileEntry} :
    t.view p = some entry
      ↔ ∃ place node, t.locate? p = some place ∧ t.node? place = some node
          ∧ entryOf node = entry := by
  simp only [view, Option.map_eq_some_iff, Option.bind_eq_some_iff]
  constructor
  · rintro ⟨node, ⟨place, hplace, hnode⟩, hentry⟩
    exact ⟨place, node, hplace, hnode, hentry⟩
  · rintro ⟨place, node, hplace, hnode, hentry⟩
    exact ⟨node, ⟨place, hplace, hnode⟩, hentry⟩

lemma exists_view_of_read? {view : FileView} {text : String} (h : view.read? p = some text) :
    view p = some (.file (some text)) := by
  rw [FileView.read?] at h
  split at h
  · rename_i found hfound
    rw [hfound, h]
  · exact nomatch h

/-- **In a tree it does not matter how a path is spelled**, as long as it leads to a file. -/
theorem ignoresSpelling_view (t : FileTree) : t.view.IgnoresSpelling := by
  intro p q hsteps text text' hp hq
  obtain ⟨place, node, hplace, hnode, hentry⟩ := view_eq_some_iff.1 (exists_view_of_read? hp)
  obtain ⟨place', node', hplace', hnode', hentry'⟩ := view_eq_some_iff.1 (exists_view_of_read? hq)
  obtain rfl := locate?_unique hsteps hplace hplace'
  obtain rfl := Option.some.inj (hnode.symm.trans hnode')
  exact Option.some.inj (FileEntry.file.inj (hentry.symm.trans hentry'))

end Paths

/-! ## Entries of a directory -/

section Entries

variable {t : FileTree} {p : Path} {dir place : List String} {name : String}

/-- A directory by its node. -/
lemma isDirectory_iff : t.isDirectory place = true ↔ t.node? place = some .directory := by
  rw [isDirectory]
  cases t.node? place with
  | none => simp
  | some node => cases node <;> simp

lemma exists_locate?_of_view_directory (h : t.view p = some .directory) :
    ∃ dir, t.locate? p = some dir ∧ t.isDirectory dir = true := by
  obtain ⟨dir, node, hdir, hnode, hentry⟩ := view_eq_some_iff.1 h
  cases node with
  | file content => exact nomatch hentry
  | directory => exact ⟨dir, hdir, isDirectory_iff.2 hnode⟩

/-- The path of an entry has its name behind a slash, and in front of that the path of the
directory, which may have the slash itself. -/
lemma exists_toList_join (hp : p.text ≠ "") (hname : '/' ∉ name.toList) :
    ∃ body, (p.join ⟨name⟩).text.toList = body ++ '/' :: name.toList
      ∧ (p.text.toList = body ∨ p.text.toList = body ++ ['/']) := by
  have hrelative : (Path.mk name).isAbsolute = false := by
    rw [Path.isAbsolute, decide_eq_false_iff_not]
    exact fun hhead => hname (List.mem_of_mem_head? hhead)
  rw [Path.join, if_neg (by rw [hrelative]; exact Bool.false_ne_true)]
  by_cases hslash : p.text.toList.getLast? = some '/'
  · obtain ⟨body, hbody⟩ := List.getLast?_eq_some_iff.1 hslash
    refine ⟨body, ?_, Or.inr hbody⟩
    rw [if_pos (Or.inr hslash), String.toList_append, hbody, List.append_assoc,
      List.singleton_append]
  · refine ⟨p.text.toList, ?_, Or.inl rfl⟩
    rw [if_neg (not_or.2 ⟨hp, hslash⟩), String.toList_append, String.toList_append,
      List.append_assoc]
    rfl

/-- A slash at the end of the path of a directory stays in the directory. -/
lemma walk?_pieces_iff (hp : p.text ≠ "") {body : List Char}
    (hbody : p.text.toList = body ∨ p.text.toList = body ++ ['/'])
    (hdir : t.isDirectory dir = true) :
    t.walk? (t.origin p) (pieces '/' body) = some dir ↔ t.locate? p = some dir := by
  rw [locate?_eq_some_iff, and_iff_right hp]
  rcases hbody with hbody | hbody
  · rw [hbody]
  · have hpieces : pieces '/' p.text.toList = pieces '/' body ++ [[]] := by
      rw [hbody, pieces_append_cons]
      rfl
    rw [hpieces, walk?_append_singleton, Option.bind_eq_some_iff]
    constructor
    · exact fun hwalk => ⟨dir, hwalk, step?_stay hdir (Or.inl rfl)⟩
    · rintro ⟨next, hwalk, hstep⟩
      rw [step?_stay (isDirectory_of_step? hstep) (Or.inl rfl)] at hstep
      rw [hwalk, hstep]

/-- The pieces of the path of an entry: those that lead to the directory, and its name. -/
lemma exists_pieces_join (hp : p.text ≠ "") (hname : '/' ∉ name.toList) :
    ∃ before, pieces '/' (p.join ⟨name⟩).text.toList = before ++ [name.toList]
      ∧ (p.join ⟨name⟩).text ≠ "" ∧ (p.join ⟨name⟩).isAbsolute = p.isAbsolute
      ∧ ∀ (t : FileTree) (dir : List String), t.isDirectory dir = true →
        (t.walk? (t.origin p) before = some dir ↔ t.locate? p = some dir) := by
  obtain ⟨body, htext, hbody⟩ := exists_toList_join hp hname
  refine ⟨pieces '/' body, ?_, ?_, ?_, fun t dir hdir => walk?_pieces_iff hp hbody hdir⟩
  · rw [htext, pieces_append_cons, pieces_of_notMem hname]
  · intro hempty
    rw [hempty] at htext
    simp at htext
  · -- both paths begin with the same character
    have hhead : (p.join ⟨name⟩).text.toList.head? = p.text.toList.head? := by
      rw [htext]
      cases body with
      | nil =>
          rcases hbody with hbody | hbody
          · exact absurd (by simpa using hbody) hp
          · rw [hbody]
            rfl
      | cons c rest =>
          rcases hbody with hbody | hbody
          · rw [hbody]
            rfl
          · rw [hbody]
            rfl
    rw [Path.isAbsolute, Path.isAbsolute, hhead]

/-- A name that is one step into a directory. -/
structure IsEntryName (name : String) : Prop where
  notMem : '/' ∉ name.toList
  not_stay : ¬ (name.toList = [] ∨ name.toList = ['.'])
  not_up : name.toList ≠ ['.', '.']

lemma IsEntryName.stepOf?_eq (h : IsEntryName name) :
    Path.stepOf? name.toList = some (.name name) := by
  rw [Path.stepOf?, if_neg h.not_stay, if_neg h.not_up, String.ofList_toList]

lemma IsEntryName.step?_eq (h : IsEntryName name) (hdir : t.isDirectory dir = true) :
    t.step? dir name.toList
      = if (t.node? (dir ++ [name])).isSome then some (dir ++ [name]) else none := by
  rw [step?, if_pos hdir, if_neg h.not_stay, if_neg h.not_up, String.ofList_toList]

/-- The entry of a directory is where its name stands in the directory. -/
lemma locate?_join (hname : IsEntryName name) (hp : t.locate? p = some dir)
    (hdir : t.isDirectory dir = true) :
    t.locate? (p.join ⟨name⟩)
      = if (t.node? (dir ++ [name])).isSome then some (dir ++ [name]) else none := by
  obtain ⟨htext, -⟩ := locate?_eq_some_iff.1 hp
  obtain ⟨before, hpieces, htext', habsolute, hbefore⟩ := exists_pieces_join htext hname.notMem
  have horigin : t.origin (p.join ⟨name⟩) = t.origin p := by rw [origin, origin, habsolute]
  rw [locate?, if_neg htext', hpieces, horigin, walk?_append_singleton,
    (hbefore t dir hdir).2 hp, Option.bind_some, hname.step?_eq hdir]

lemma view_join (hname : IsEntryName name) (hp : t.locate? p = some dir)
    (hdir : t.isDirectory dir = true) :
    t.view (p.join ⟨name⟩) = (t.node? (dir ++ [name])).map entryOf := by
  rw [view, locate?_join hname hp hdir]
  cases hnode : t.node? (dir ++ [name]) with
  | none => rfl
  | some node =>
      rw [Option.isSome_some, if_pos rfl, Option.bind_some, hnode]

/-- A file can be written under every name in a directory, unless a directory has it. -/
lemma writable?_join (hname : IsEntryName name) (hp : t.locate? p = some dir)
    (hdir : t.isDirectory dir = true) :
    t.writable? (p.join ⟨name⟩)
      = if t.isDirectory (dir ++ [name]) then none else some (dir ++ [name]) := by
  obtain ⟨htext, -⟩ := locate?_eq_some_iff.1 hp
  obtain ⟨before, hpieces, htext', habsolute, hbefore⟩ := exists_pieces_join htext hname.notMem
  have horigin : t.origin (p.join ⟨name⟩) = t.origin p := by rw [origin, origin, habsolute]
  rw [writable?, if_neg htext', hpieces, horigin]
  simp only [List.dropLast_concat, List.getLast?_concat, (hbefore t dir hdir).2 hp,
    hname.stepOf?_eq, String.ofList_toList, hdir, and_self, if_true]

end Entries

/-! ## Writing -/

/-- A tree that differs from another one in a file at one place, which was no directory before. -/
structure WrittenAt (t t' : FileTree) (target : List String) (content : ByteArray) : Prop where
  node : ∀ place, t'.node? place = if place = target then some (.file content) else t.node? place
  workingPlace : t'.workingPlace = t.workingPlace
  was_free : t.isDirectory target = false

section Writing

variable {t t' : FileTree} {p : Path} {place target next : List String} {piece : List Char}
  {ps : List (List Char)} {content : ByteArray}

lemma node?_of_ne_nil (h : place ≠ []) : t.node? place = t.nodes.get? place := by
  cases place with
  | nil => exact absurd rfl h
  | cons name rest => rfl

lemma writtenAt_insert {text : String} (htarget : target ≠ [])
    (hfree : t.isDirectory target = false) :
    t.WrittenAt { t with nodes := t.nodes.insert target (.file text.toUTF8) } target
      text.toUTF8 where
  node place := by
    by_cases hplace : place = []
    · rw [hplace, if_neg htarget.symm]
      rfl
    · rw [node?_of_ne_nil hplace, node?_of_ne_nil hplace, OrderedMap.get?_insert]
      simp only [eq_comm]
  workingPlace := rfl
  was_free := hfree

/-- Directories are where they were. -/
lemma WrittenAt.isDirectory (h : t.WrittenAt t' target content) (place : List String) :
    t'.isDirectory place = t.isDirectory place := by
  by_cases hplace : place = target
  · rw [hplace, h.was_free, FileTree.isDirectory, h.node, if_pos rfl]
  · rw [FileTree.isDirectory, h.node, if_neg hplace, FileTree.isDirectory]

lemma WrittenAt.step?_mono (h : t.WrittenAt t' target content)
    (hstep : t.step? place piece = some next) : t'.step? place piece = some next := by
  -- what was there is there, and at the target there is a file
  have hthere : ∀ place, (t.node? place).isSome → (t'.node? place).isSome := by
    intro place hplace
    rw [h.node]
    split_ifs
    · rfl
    · exact hplace
  rw [step?] at hstep ⊢
  rw [h.isDirectory]
  split_ifs at hstep with hdir hstay hup hsome
  · rwa [if_pos hdir, if_pos hstay]
  · rwa [if_pos hdir, if_neg hstay, if_pos hup]
  · rwa [if_pos hdir, if_neg hstay, if_neg hup, if_pos (hthere _ hsome)]

/-- **Every walk through the old tree is one through the new tree.** -/
lemma WrittenAt.walk?_mono (h : t.WrittenAt t' target content)
    (hwalk : t.walk? place ps = some next) : t'.walk? place ps = some next := by
  induction ps generalizing place with
  | nil => rwa [walk?_nil] at hwalk ⊢
  | cons piece ps ih =>
      rw [walk?_cons, Option.bind_eq_some_iff] at hwalk ⊢
      obtain ⟨between, hstep, hwalk⟩ := hwalk
      exact ⟨between, h.step?_mono hstep, ih hwalk⟩

lemma WrittenAt.locate?_mono (h : t.WrittenAt t' target content)
    (hplace : t.locate? p = some place) : t'.locate? p = some place := by
  rw [locate?_eq_some_iff] at hplace ⊢
  rw [origin, h.workingPlace]
  exact ⟨hplace.1, h.walk?_mono hplace.2⟩

/-- **Writing an entry of a directory** works unless a directory has its name. -/
lemma exists_write?_join {dir : List String} {name : String} (hname : IsEntryName name)
    (hp : t.locate? p = some dir) (hdir : t.isDirectory dir = true)
    (hfree : t.isDirectory (dir ++ [name]) = false) (text : String) :
    ∃ t', t.write? (p.join ⟨name⟩) text = some t'
      ∧ t.WrittenAt t' (dir ++ [name]) text.toUTF8 := by
  refine ⟨_, ?_, writtenAt_insert (List.append_ne_nil_of_right_ne_nil dir (by simp)) hfree⟩
  rw [write?, writable?_join hname hp hdir, if_neg (by simp [hfree])]
  rfl

lemma write?_join_eq_none {dir : List String} {name : String} (hname : IsEntryName name)
    (hp : t.locate? p = some dir) (hdir : t.isDirectory dir = true)
    (htaken : t.isDirectory (dir ++ [name]) = true) (text : String) :
    t.write? (p.join ⟨name⟩) text = none := by
  rw [write?, writable?_join hname hp hdir, if_pos htaken]
  rfl

end Writing

end FileTree

end LintConfig
