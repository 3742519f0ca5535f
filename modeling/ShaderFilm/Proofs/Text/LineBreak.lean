import ShaderFilm.Proofs.Text.Line
import ShaderFilm.Proofs.Text.Rename

/-!
# Line breaks

Every text is made of lines that are ended by a line feed and of a rest without one
(`exists_unlines`).  Cutting it into lines comes to the same whether its line breaks are written
with or without a carriage return (`lines_replaceAll_newline`), and ending the last line as well
takes at most a carriage return from it (`lines_concat_newline`).
-/

namespace ShaderFilm.Text

/-- Every text is made of ended lines and of a rest without a line feed. -/
theorem exists_unlines (s : List Char) :
    ∃ ls rest, s = unlines ls ++ rest ∧ (∀ line ∈ ls, '\n' ∉ line) ∧ '\n' ∉ rest := by
  induction s with
  | nil => exact ⟨[], [], rfl, nofun, nofun⟩
  | cons c s ih =>
    obtain ⟨ls, rest, rfl, ended, open_⟩ := ih
    by_cases newline : c = '\n'
    · refine ⟨[] :: ls, rest, by simp [newline], ?_, open_⟩
      simpa using ended
    · cases ls with
      | nil => exact ⟨[], c :: rest, rfl, nofun, by simp [Ne.symm newline, open_]⟩
      | cons line ls =>
        refine ⟨(c :: line) :: ls, rest, by simp, ?_, open_⟩
        simpa [Ne.symm newline] using ended

theorem lines_of_not_mem {rest : List Char} (nonempty : rest ≠ []) (h : '\n' ∉ rest) :
    lines rest = [rest] := by
  induction rest with
  | nil => exact absurd rfl nonempty
  | cons c rest ih =>
    obtain ⟨newline, inner⟩ := not_or.1 (mt List.mem_cons.2 h)
    have noBreak : rest.head? ≠ some '\n' := fun first => inner (List.mem_of_head? first)
    rw [lines_cons (Ne.symm newline) fun _ => noBreak]
    cases rest with
    | nil => rfl
    | cons d rest => rw [ih (List.cons_ne_nil d rest) inner]

/-! ### Carriage returns in line breaks -/

/-- Up to the first line feed, and with it, a text is rewritten apart from what follows. -/
theorem replaceAll_newline_append {line : List Char} (h : '\n' ∉ line) (new rest : List Char) :
    replaceAll ['\n'] new (line ++ '\n' :: rest) =
      line ++ new ++ replaceAll ['\n'] new rest := by
  induction line with
  | nil => exact replaceAll_append (List.cons_ne_nil '\n' []) new rest
  | cons c line ih =>
    obtain ⟨newline, inner⟩ := not_or.1 (mt List.mem_cons.2 h)
    have other : ¬ ['\n'] <+: c :: (line ++ '\n' :: rest) := by simp [newline]
    rw [List.cons_append, replaceAll_cons other, ih inner, List.cons_append, List.cons_append]

theorem replaceAll_newline {ls : List (List Char)} {rest : List Char}
    (ended : ∀ line ∈ ls, '\n' ∉ line) (open_ : '\n' ∉ rest) :
    replaceAll ['\n'] ['\r', '\n'] (unlines ls ++ rest) =
      unlines (ls.map (· ++ ['\r'])) ++ rest := by
  induction ls with
  | nil =>
    have renamed := renamed_replaceAll (List.cons_ne_nil '\n' []) ['\r', '\n'] rest
    exact (renamed.eq_of_not_mem List.mem_cons_self open_).symm
  | cons line ls ih =>
    have others := ih fun l mem => ended l (List.mem_cons_of_mem line mem)
    rw [unlines_cons, List.append_assoc, List.cons_append,
      replaceAll_newline_append (ended line List.mem_cons_self), others]
    simp

theorem dropReturn_concat (line : List Char) : dropReturn (line ++ ['\r']) = line := by
  simp [dropReturn]

/-- Where no carriage return is a character of its own, one in front of each line feed changes no
line. -/
theorem lines_replaceAll_newline {s : List Char} (plain : '\r' ∉ s) :
    lines (replaceAll ['\n'] ['\r', '\n'] s) = lines s := by
  obtain ⟨ls, rest, rfl, ended, open_⟩ := exists_unlines s
  have broken : ∀ line ∈ ls.map (· ++ ['\r']), '\n' ∉ line := by
    simpa using ended
  have unchanged : ∀ line ∈ ls, dropReturn (line ++ ['\r']) = dropReturn line := by
    intro line mem
    have free : '\r' ∉ line := fun inLine =>
      plain (List.mem_append_left rest
        (List.mem_flatMap.2 ⟨line, mem, List.mem_append_left _ inLine⟩))
    rw [dropReturn_concat, dropReturn_of_not_mem free]
  rw [replaceAll_newline ended open_, lines_unlines_append broken, lines_unlines_append ended,
    List.map_map]
  exact congrArg (· ++ lines rest) (List.map_congr_left unchanged)

/-! ### The end of the last line -/

/-- A text whose last line is not ended has the lines of the text in which it is, but for a carriage
return that goes with the line break. -/
theorem lines_concat_newline {s : List Char} (nonempty : s ≠ []) (open_ : s.getLast? ≠ some '\n') :
    ∃ front last, lines s = front ++ [last] ∧ last.getLast? = s.getLast? ∧
      lines (s ++ ['\n']) = front ++ [dropReturn last] := by
  obtain ⟨ls, rest, rfl, ended, free⟩ := exists_unlines s
  have some : rest ≠ [] := by
    rintro rfl
    rcases List.eq_nil_or_concat ls with rfl | ⟨front, line, rfl⟩
    · exact nonempty rfl
    · exact open_ (by simp [unlines_append])
  refine ⟨ls.map dropReturn, rest, ?_, ?_, ?_⟩
  · rw [lines_unlines_append ended, lines_of_not_mem some free]
  · rw [List.getLast?_append, Option.or_of_isSome (List.getLast?_isSome.2 some)]
  · rw [List.append_assoc, lines_unlines_append ended, lines_append_newline free, lines_nil]

end ShaderFilm.Text
