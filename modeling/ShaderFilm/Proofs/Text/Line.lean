import ShaderFilm.Text.Line

/-!
# Lines of joined lines

Cutting a text into lines and joining lines to a text are inverse to each other up to one carriage
return at the end of each line (`lines_unlines`), whatever follows (`lines_unlines_append`).
-/

namespace ShaderFilm.Text

/-- A line without one carriage return at its end. -/
def dropReturn (line : List Char) : List Char :=
  if line.getLast? = some '\r' then line.dropLast else line

theorem dropReturn_cons_of_ne {c : Char} {line : List Char} (h : c = '\r' → line ≠ []) :
    dropReturn (c :: line) = c :: dropReturn line := by
  cases line with
  | nil =>
    have ordinary : c ≠ '\r' := fun e => h e rfl
    simp [dropReturn, ordinary]
  | cons d rest =>
    simp only [dropReturn, List.getLast?_cons_cons]
    split <;> simp

theorem dropReturn_of_not_mem {line : List Char} (h : '\r' ∉ line) : dropReturn line = line :=
  if_neg fun last => h (List.mem_of_getLast? last)

/-- What does not depend on a carriage return at the end of a line is the same without it. -/
theorem apply_dropReturn {α : Type} {f : List Char → α} (same : ∀ s, f (s ++ ['\r']) = f s)
    (line : List Char) : f (dropReturn line) = f line := by
  rw [dropReturn]
  split
  · next last =>
    obtain ⟨rest, rfl⟩ := List.getLast?_eq_some_iff.1 last
    rw [List.dropLast_concat, same]
  · rfl

theorem lines_cons {c : Char} {rest : List Char} (newline : c ≠ '\n')
    (noBreak : c = '\r' → rest.head? ≠ some '\n') :
    lines (c :: rest) = match lines rest with
      | [] => [[c]]
      | line :: more => (c :: line) :: more := by
  refine lines.eq_4 c rest newline ?_
  rintro more rfl rfl
  exact noBreak rfl rfl

/-- A line feed ends a line, and one carriage return before it goes with it. -/
theorem lines_append_newline {line : List Char} (h : '\n' ∉ line) (rest : List Char) :
    lines (line ++ '\n' :: rest) = dropReturn line :: lines rest := by
  induction line with
  | nil => rfl
  | cons c line ih =>
    obtain ⟨newline, inner⟩ := not_or.1 (mt List.mem_cons.2 h)
    by_cases single : c = '\r' ∧ line = []
    · obtain ⟨rfl, rfl⟩ := single
      rfl
    · have more : c = '\r' → line ≠ [] := fun e l => single ⟨e, l⟩
      rw [dropReturn_cons_of_ne more, List.cons_append, lines_cons (Ne.symm newline), ih inner]
      intro e
      cases line with
      | nil => exact absurd rfl (more e)
      | cons d _ =>
        intro head
        exact inner (by simp_all)

theorem newline_not_mem_lines {s : List Char} : ∀ line ∈ lines s, '\n' ∉ line := by
  fun_induction lines s with
  | case1 => simp
  | case2 rest ih => simpa using ih
  | case3 rest ih => simpa using ih
  | case4 c rest newline _ found ih => simp [Ne.symm newline]
  | case5 c rest newline _ line more found ih =>
    rw [found] at ih
    simpa [Ne.symm newline] using ih

theorem lines_unlines_append {ls : List (List Char)} (h : ∀ line ∈ ls, '\n' ∉ line)
    (rest : List Char) : lines (unlines ls ++ rest) = ls.map dropReturn ++ lines rest := by
  induction ls with
  | nil => rfl
  | cons line more ih =>
    rw [unlines_cons, List.append_assoc, List.cons_append,
      lines_append_newline (h line List.mem_cons_self),
      ih fun l mem => h l (List.mem_cons_of_mem line mem)]
    rfl

theorem lines_unlines {ls : List (List Char)} (h : ∀ line ∈ ls, '\n' ∉ line) :
    lines (unlines ls) = ls.map dropReturn := by
  have := lines_unlines_append h []
  rwa [List.append_nil, lines_nil, List.append_nil] at this

/-- Lines without line breaks of any sort are found again, whatever follows them. -/
theorem lines_unlines_append_of_plain {ls : List (List Char)}
    (h : ∀ line ∈ ls, '\n' ∉ line ∧ '\r' ∉ line) (rest : List Char) :
    lines (unlines ls ++ rest) = ls ++ lines rest := by
  have same : ls.map dropReturn = ls.map id :=
    List.map_congr_left fun line mem => dropReturn_of_not_mem (h line mem).2
  rw [lines_unlines_append fun line mem => (h line mem).1, same, List.map_id]

theorem lines_unlines_of_plain {ls : List (List Char)}
    (h : ∀ line ∈ ls, '\n' ∉ line ∧ '\r' ∉ line) : lines (unlines ls) = ls := by
  have cut := lines_unlines_append_of_plain h []
  rwa [List.append_nil, lines_nil, List.append_nil] at cut

end ShaderFilm.Text
