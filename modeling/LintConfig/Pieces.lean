/-!
# Cutting texts at a mark

`pieces` cuts a text at every occurrence of a character: at the slashes of a pointer or of a path,
at the points of an address.  Texts that are put together at a mark are cut there again
(`pieces_append_cons`).

`cutAt` cuts a text at the first occurrence only.  A text that is put together at a mark is cut
there again, if no other mark comes before it (`cutAt_append_cons`).

`lines` cuts a text at its line feeds, with or without a carriage return before them.
-/

namespace LintConfig

/-- The pieces of a text between the occurrences of a mark. -/
def pieces (mark : Char) : List Char → List (List Char)
  | [] => [[]]
  | c :: rest =>
    match pieces mark rest with
    | [] => [[c]]
    | piece :: others => if c = mark then [] :: piece :: others else (c :: piece) :: others

theorem pieces_ne_nil (mark : Char) (cs : List Char) : pieces mark cs ≠ [] := by
  cases cs with
  | nil => simp [pieces]
  | cons c rest =>
    simp only [pieces]
    split
    · simp
    · split <;> simp

theorem pieces_cons (mark c : Char) (rest : List Char) :
    pieces mark (c :: rest)
      = if c = mark then [] :: pieces mark rest
        else (c :: (pieces mark rest).headD []) :: (pieces mark rest).tail := by
  cases h : pieces mark rest with
  | nil => exact absurd h (pieces_ne_nil mark rest)
  | cons piece others => simp [pieces, h]

/-- A text is cut at a mark in the middle as its two sides are cut. -/
theorem pieces_append_cons (mark : Char) (before after : List Char) :
    pieces mark (before ++ mark :: after) = pieces mark before ++ pieces mark after := by
  induction before with
  | nil => simp [pieces_cons, pieces]
  | cons c rest ih =>
    rw [List.cons_append, pieces_cons, pieces_cons, ih]
    by_cases hc : c = mark
    · simp [hc]
    · cases h : pieces mark rest with
      | nil => exact absurd h (pieces_ne_nil mark rest)
      | cons piece others => simp [hc]

/-- A text that does not hold the mark is one piece. -/
theorem pieces_of_notMem {mark : Char} {cs : List Char} (h : mark ∉ cs) :
    pieces mark cs = [cs] := by
  induction cs with
  | nil => rfl
  | cons c rest ih =>
    have hc : c ≠ mark := fun e => h (by simp [e])
    rw [pieces_cons, if_neg hc, ih fun hm => h (List.mem_cons_of_mem c hm)]
    rfl

/-- What comes before the first occurrence of a mark, and what comes after it if there is one. -/
def cutAt (mark : Char) : List Char → List Char × Option (List Char)
  | [] => ([], none)
  | c :: rest =>
    if c = mark then ([], some rest)
    else
      let (before, after) := cutAt mark rest
      (c :: before, after)

/-- A text is cut at the mark that no other mark comes before. -/
theorem cutAt_append_cons {mark : Char} {before : List Char} (h : mark ∉ before)
    (after : List Char) : cutAt mark (before ++ mark :: after) = (before, some after) := by
  induction before with
  | nil => simp [cutAt]
  | cons c rest ih =>
    have hc : c ≠ mark := fun e => h (by simp [e])
    have hrest : mark ∉ rest := fun hm => h (List.mem_cons_of_mem c hm)
    simp only [List.cons_append, cutAt, hc, if_false, ih hrest]

/-- A text that does not hold the mark is left whole. -/
theorem cutAt_of_notMem {mark : Char} {cs : List Char} (h : mark ∉ cs) :
    cutAt mark cs = (cs, none) := by
  induction cs with
  | nil => rfl
  | cons c rest ih =>
    have hc : c ≠ mark := fun e => h (by simp [e])
    have hrest : mark ∉ rest := fun hm => h (List.mem_cons_of_mem c hm)
    simp only [cutAt, hc, if_false, ih hrest]

/-- A line without the carriage return at its end. -/
def withoutReturn (line : List Char) : List Char :=
  if line.getLast? = some '\r' then line.dropLast else line

/-- The lines of a text.  Each ends with a line feed, and a carriage return before it belongs to the
end; what follows the last line feed is no line. -/
def lines (cs : List Char) : List (List Char) := (pieces '\n' cs).dropLast.map withoutReturn

end LintConfig
