import ShaderFilm.Proofs.Shader.Line
import ShaderFilm.Shader.Declaration

/-!
# Lines and their comments

The code of a line is what stands before its line comment (`exists_comment`).  A line that the
program takes over has the code of the line that it stems from, tidied (`Blind.codePart`), and the
first word of a line never belongs to the comment (`firstWord_trim_codePart`).
-/

namespace ShaderFilm.Shader

open ShaderFilm.Text

theorem codePart_cons (c : Char) (s : List Char) :
    codePart (c :: s) = if "//".toList.isPrefixOf (c :: s) then [] else c :: codePart s := by
  rw [codePart, cutAt]
  cases "//".toList.isPrefixOf (c :: s) with
  | true => rfl
  | false =>
    rw [codePart]
    cases cutAt "//".toList s <;> rfl

theorem slashes_isPrefixOf_iff (c : Char) (s : List Char) :
    "//".toList.isPrefixOf (c :: s) = true ↔ c = '/' ∧ s.head? = some '/' := by
  rw [List.isPrefixOf_iff_prefix]
  show '/' :: '/' :: [] <+: c :: s ↔ _
  rw [List.cons_prefix_cons]
  cases s with
  | nil => simp
  | cons d s => simp [List.cons_prefix_cons, eq_comm]

/-- A line is its code and its comment, if it has one. -/
theorem exists_comment (line : List Char) :
    ∃ comment, codePart line ++ comment = line ∧ ∀ c, comment.head? = some c → c = '/' := by
  induction line with
  | nil => exact ⟨[], rfl, by simp⟩
  | cons c line ih =>
    rw [codePart_cons]
    split
    · next slashes =>
      refine ⟨c :: line, rfl, fun d first => ?_⟩
      rw [← Option.some.inj first]
      exact ((slashes_isPrefixOf_iff c line).1 slashes).1
    · obtain ⟨comment, whole, slash⟩ := ih
      exact ⟨comment, congrArg (c :: ·) whole, slash⟩

theorem codePart_isPrefix (line : List Char) : codePart line <+: line := by
  obtain ⟨comment, whole, -⟩ := exists_comment line
  exact ⟨comment, whole⟩

theorem beginsApart_of_slash {comment : List Char}
    (slash : ∀ c, comment.head? = some c → c = '/') : BeginsApart comment := by
  intro c first
  rw [slash c first]
  decide

theorem codePart_append {code : List Char} (lacks : '/' ∉ code) (rest : List Char) :
    codePart (code ++ rest) = code ++ codePart rest := by
  induction code with
  | nil => rfl
  | cons c code ih =>
    obtain ⟨other, inner⟩ := not_or.1 (mt List.mem_cons.2 lacks)
    have code' : "//".toList.isPrefixOf (c :: (code ++ rest)) ≠ true :=
      fun slashes => other ((slashes_isPrefixOf_iff c _).1 slashes).1.symm
    rw [List.cons_append, codePart_cons, if_neg code', ih inner]
    rfl

/-- No code is left when the comment of a line is taken away once more. -/
theorem codePart_codePart (line : List Char) : codePart (codePart line) = codePart line := by
  induction line with
  | nil => rfl
  | cons c line ih =>
    rw [codePart_cons]
    split
    · rfl
    · next code =>
      have code' : "//".toList.isPrefixOf (c :: codePart line) ≠ true := by
        intro slashes
        obtain ⟨first, second⟩ := (slashes_isPrefixOf_iff c _).1 slashes
        obtain ⟨comment, whole, -⟩ := exists_comment line
        refine code ((slashes_isPrefixOf_iff c line).2 ⟨first, ?_⟩)
        rw [← whole, List.head?_append, second]
        rfl
      rw [codePart_cons, if_neg code', ih]

/-- A character behind a line belongs to the comment, or else it is code. -/
theorem codePart_concat {c : Char} (other : c ≠ '/') (s : List Char) :
    codePart (s ++ [c]) = codePart s ∨ codePart (s ++ [c]) = codePart s ++ [c] := by
  induction s with
  | nil =>
    have code : '/' ∉ [c] := by simpa using other.symm
    exact .inr (codePart_append code [])
  | cons d s ih =>
    have same : "//".toList.isPrefixOf (d :: (s ++ [c])) = "//".toList.isPrefixOf (d :: s) := by
      rw [Bool.eq_iff_iff, slashes_isPrefixOf_iff, slashes_isPrefixOf_iff]
      cases s <;> simp [other]
    rw [List.cons_append, codePart_cons, codePart_cons, same]
    split
    · exact .inl rfl
    · exact ih.imp (congrArg (d :: ·)) (congrArg (d :: ·))

/-- What does not depend on blanks at the end of a text does not depend on blanks at the end of a
line whose code it is seen of. -/
theorem codePart_concat_blank {α : Type} {f : List Char → α} {c : Char}
    (same : ∀ s, f (s ++ [c]) = f s) (blank : isBlank c = true) (s : List Char) :
    f (codePart (s ++ [c])) = f (codePart s) := by
  have other : c ≠ '/' := by
    rintro rfl
    revert blank
    decide
  rcases codePart_concat other s with short | longer
  · rw [short]
  · rw [longer, same]

theorem slash_not_mem_of_ident {word : List Char} (ident : ∀ c ∈ word, isIdentChar c = true) :
    '/' ∉ word := by
  intro mem
  have free := ident '/' mem
  revert free
  decide

theorem Renamed.codePart {old new s t : List Char} (names : Names old new)
    (h : Renamed old new s t) : Renamed old new (codePart s) (codePart t) := by
  induction h with
  | nil => exact .nil
  | @cons c s t rest ih =>
    have same : "//".toList.isPrefixOf (c :: t) = "//".toList.isPrefixOf (c :: s) := by
      rw [Bool.eq_iff_iff, slashes_isPrefixOf_iff, slashes_isPrefixOf_iff,
        rest.head?_eq_some_iff names (by decide)]
    rw [codePart_cons, codePart_cons, same]
    split
    · exact .nil
    · exact ih.cons c
  | name _ ih =>
    rw [codePart_append (slash_not_mem_of_ident names.old_ident),
      codePart_append (slash_not_mem_of_ident names.new_ident)]
    exact ih.name

/-- Names are replaced in the code of a line as they are in the line. -/
theorem codePart_replaceAll {old new : List Char} (names : Names old new) (s : List Char) :
    codePart (replaceAll old new s) = replaceAll old new (codePart s) := by
  induction s using occurrence_induction names.old_ne_nil with
  | nil => rfl
  | name s ih =>
    rw [replaceAll_append names.old_ne_nil, codePart_append (slash_not_mem_of_ident names.new_ident),
      codePart_append (slash_not_mem_of_ident names.old_ident),
      replaceAll_append names.old_ne_nil, ih]
  | cons c s other ih =>
    have same : "//".toList.isPrefixOf (c :: replaceAll old new s) =
        "//".toList.isPrefixOf (c :: s) := by
      have renamed := renamed_replaceAll names.old_ne_nil new s
      rw [Bool.eq_iff_iff, slashes_isPrefixOf_iff, slashes_isPrefixOf_iff,
        renamed.head?_eq_some_iff names (by decide)]
    rw [replaceAll_cons other, codePart_cons, codePart_cons, same]
    split
    · rfl
    · have shorter : ¬ old <+: c :: codePart s := fun here =>
        other (here.trans (List.cons_prefix_cons.2 ⟨rfl, codePart_isPrefix s⟩))
      rw [replaceAll_cons shorter, ih]

/-- What is seen of a line is seen of its code. -/
theorem Blind.codePart {α : Type} {f : List Char → α} (blind : Blind f) :
    Blind fun line => f (codePart line) where
  renamed h := blind.renamed (Renamed.codePart outputNames h)
  blank s blank := codePart_concat_blank (fun s => blind.blank s blank) blank s

theorem firstWord_trim_codePart (line : List Char) :
    firstWord (trim (codePart line)) = firstWord (trimStart line) := by
  obtain ⟨comment, whole, slash⟩ := exists_comment line
  have split : trimStart line =
      if (trimStart (codePart line)).isEmpty then trimStart comment
      else trimStart (codePart line) ++ comment := by
    rw [trimStart, trimStart, trimStart, ← List.dropWhile_append, whole]
  rw [trim, firstWord_trimEnd, split]
  split
  · next empty =>
    -- there is nothing but the comment, and no word begins it
    rw [List.isEmpty_iff.1 empty]
    cases comment with
    | nil => rfl
    | cons c comment =>
      obtain rfl := slash c rfl
      rfl
  · exact (firstWord_append (beginsApart_of_slash slash) _).symm

end ShaderFilm.Shader
