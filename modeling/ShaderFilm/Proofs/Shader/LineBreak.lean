import ShaderFilm.Proofs.Shader.Statement
import ShaderFilm.Proofs.Shader.Uncommented
import ShaderFilm.Proofs.Text.LineBreak

/-!
# Line breaks of the source

A program depends on the lines of its source that are kept and on nothing else
(`canonicalize_of_keptLines`), so it is the same however the line breaks are written.  A last line
that is not ended may have a carriage return at its end, which is a character of the line there and
a part of the line break where the line is ended (`keptLines_concat_newline`).  The code of the line
is the same (`sameCode_of_return`), so it matters to the text of the program only, and only if the
line is kept (`canonicalize_lineBreaks`).
-/

namespace ShaderFilm.Shader

open ShaderFilm.Text

/-! ### Kept lines and the last line -/

theorem canonicalize_of_keptLines {s t : List Char}
    (same : keptLines [] (lines s) = keptLines [] (lines t)) : canonicalize s = canonicalize t := by
  have body : bodyOf s = bodyOf t := by rw [bodyOf, same, bodyOf]
  rw [canonicalize, body, canonicalize]

/-- The last line of a text is left out of the program. -/
def DropsLast (source : List Char) : Prop :=
  keptLines [] (lines source) = keptLines [] (lines source).dropLast

instance (source : List Char) : Decidable (DropsLast source) :=
  inferInstanceAs (Decidable (_ = _))

theorem dropsLast_iff {s last : List Char} {front : List (List Char)}
    (split : lines s = front ++ [last]) :
    DropsLast s ↔ keptLines (front.foldl (enter part?) []) [last] = [] := by
  rw [DropsLast, split, List.dropLast_concat, keptLines_append, List.append_right_eq_self]

/-! ### A carriage return at the end -/

theorem renameOutput_concat_return (line : List Char) :
    renameOutput (line ++ ['\r']) = renameOutput line ++ ['\r'] := by
  have apart : BeginsApart ['\r'] := by
    intro c first
    rw [← Option.some.inj first]
    decide
  exact replaceAll_append_of_apart outputNames.old_ne_nil outputNames.old_ident (.inr apart)

/-- What is seen of the code of a line does not depend on a carriage return at its end. -/
theorem OfCode.tidy_return {α : Type} {f : List Char → α} (ofCode : OfCode f) (line : List Char) :
    f (Shader.tidy (line ++ ['\r'])) = f (Shader.tidy line) := by
  have blank (s : List Char) : f (s ++ ['\r']) = f s := ofCode.blank s (by decide)
  rw [Shader.tidy, Shader.tidy, apply_dropReturn blank, apply_dropReturn blank,
    renameOutput_concat_return, blank]

theorem body_of_kept {source last : List Char} {front : List (List Char)}
    (kept : keptLines [] (lines source) = front ++ [last]) :
    (canonicalize source).body =
      unlines (front.map renameOutput) ++ (renameOutput last ++ ['\n']) := by
  show unlines ((keptLines [] (lines source)).map renameOutput) = _
  rw [kept, List.map_append, unlines_append, List.map_singleton, unlines_cons, unlines_nil]

section Kept

variable {s t : List Char} {front : List (List Char)} {line : List Char}
  (kept : keptLines [] (lines s) = front ++ [line ++ ['\r']])
  (ended : keptLines [] (lines t) = front ++ [line])
include kept ended

/-- The lines of the body are seen as they are with the carriage return. -/
theorem sameCode_of_return : SameCode t s := by
  intro α f ofCode
  rw [lines_body, lines_body, kept, ended]
  simp [ofCode.tidy_return]

/-- The program without the carriage return is the one with it, but for that character. -/
theorem text_of_return :
    let p := canonicalize s
    let closing := if p.addsEntry then Canonical.entry p.outputName else []
    ∃ opening, p.text = opening ++ '\r' :: '\n' :: closing ∧
      (canonicalize t).text = opening ++ '\n' :: closing := by
  have same := sameCode_of_return kept ended
  refine ⟨Canonical.header ++
    (if (canonicalize s).addsOutput then Canonical.outputDeclaration else []) ++
      '\n' :: (unlines (front.map renameOutput) ++ renameOutput line), ?_, ?_⟩
  · rw [Canonical.text, body_of_kept kept, renameOutput_concat_return]
    simp
  · rw [Canonical.text, body_of_kept ended, same.addsOutput, same.addsEntry, same.outputName]
    simp

end Kept

theorem keptLines_return (nesting : List Bool) (line : List Char) :
    keptLines nesting [line ++ ['\r']] = (keptLines nesting [line]).map (· ++ ['\r']) := by
  have sameKind : ∀ l ∈ [line], LineKind.of (l ++ ['\r']) = LineKind.of l :=
    fun l _ => LineKind.blind_of.blank l (by decide)
  exact keptLines_map sameKind nesting

/-- A last line that ends in a carriage return is left out whether it is ended or not, or it is kept
in both cases, with the carriage return where it is not ended. -/
theorem keptLines_concat_newline {source : List Char} (return_ : source.getLast? = some '\r') :
    if DropsLast source then
      keptLines [] (lines (source ++ ['\n'])) = keptLines [] (lines source)
    else
      ∃ front line, keptLines [] (lines source) = front ++ [line ++ ['\r']] ∧
        keptLines [] (lines (source ++ ['\n'])) = front ++ [line] := by
  have nonempty : source ≠ [] := by
    rintro rfl
    cases return_
  obtain ⟨front, last, cut, sameEnd, cutEnded⟩ :=
    lines_concat_newline nonempty (by rw [return_]; decide)
  obtain ⟨line, rfl⟩ := List.getLast?_eq_some_iff.1 (sameEnd.trans return_)
  rw [dropReturn_concat] at cutEnded
  have drops := dropsLast_iff cut
  rw [cut, cutEnded, keptLines_append, keptLines_append]
  rw [keptLines_return] at drops ⊢
  rcases keptLines_singleton (front.foldl (enter part?) []) line with dropped | kept
  · rw [if_pos (drops.2 (by rw [dropped, List.map_nil])), dropped, List.map_nil]
  · rw [if_neg (mt drops.1 (by rw [kept]; exact List.cons_ne_nil _ _)), kept]
    exact ⟨keptLines [] front, line, rfl, rfl⟩

/-! ### Line breaks and programs -/

/-- Nothing depends on how the line breaks of a source are written, nor on whether its last line is
ended.  Only a carriage return at the very end is a character of the last line, if that line is not
ended, and stands in the text of the program, if that line is kept. -/
theorem canonicalize_lineBreaks (source : List Char) :
    ('\r' ∉ source → canonicalize (replaceAll ['\n'] ['\r', '\n'] source) = canonicalize source) ∧
      (source ≠ [] → source.getLast? ≠ some '\n' → source.getLast? ≠ some '\r' →
        canonicalize (source ++ ['\n']) = canonicalize source) ∧
      (source.getLast? = some '\r' →
        let p := canonicalize source
        let q := canonicalize (source ++ ['\n'])
        let closing := if p.addsEntry then Canonical.entry p.outputName else []
        q.outputName = p.outputName ∧ q.addsOutput = p.addsOutput ∧ q.addsEntry = p.addsEntry ∧
          if DropsLast source then q.text = p.text
          else ∃ opening, p.text = opening ++ '\r' :: '\n' :: closing ∧
            q.text = opening ++ '\n' :: closing) := by
  refine ⟨?_, ?_, ?_⟩
  · intro plain
    exact canonicalize_of_keptLines (by rw [lines_replaceAll_newline plain])
  · intro nonempty unended noReturn
    obtain ⟨front, last, cut, sameEnd, cutEnded⟩ := lines_concat_newline nonempty unended
    rw [dropReturn, if_neg (by rwa [sameEnd])] at cutEnded
    exact canonicalize_of_keptLines (by rw [cutEnded, cut])
  · intro return_ p q closing
    have cases := keptLines_concat_newline return_
    split at cases
    · next dropped =>
      have same : q = p := canonicalize_of_keptLines cases
      rw [same, if_pos dropped]
      exact ⟨rfl, rfl, rfl, rfl⟩
    · next taken =>
      obtain ⟨front, line, kept, ended⟩ := cases
      have same := sameCode_of_return kept ended
      rw [if_neg taken]
      exact ⟨same.outputName, same.addsOutput, same.addsEntry, text_of_return kept ended⟩

/-- A shader whose last line is not ended, the same with a carriage return at its end, and one with
the carriage return at the end of a directive that is left out. -/
theorem canonicalize_lineBreaks_main :
    let shader := "void main() \x7b\n  gl_FragColor = vec4(1.0);\n\x7d".toList
    let returned := shader ++ ['\r']
    let versioned := shader ++ "\n#version 100\r".toList
    canonicalize (replaceAll ['\n'] ['\r', '\n'] shader) = canonicalize shader ∧
      canonicalize (shader ++ ['\n']) = canonicalize shader ∧
      ¬ DropsLast returned ∧
      (canonicalize (returned ++ ['\n'])).outputName = (canonicalize returned).outputName ∧
      DropsLast versioned ∧
      (canonicalize (versioned ++ ['\n'])).text = (canonicalize versioned).text := by
  intro shader returned versioned
  obtain ⟨broken, ended, -⟩ := canonicalize_lineBreaks shader
  obtain ⟨-, -, kept⟩ := canonicalize_lineBreaks returned
  obtain ⟨-, -, dropped⟩ := canonicalize_lineBreaks versioned
  have drops : DropsLast versioned := by decide +kernel
  have versionedEnd := (dropped (by decide)).2.2.2
  rw [if_pos drops] at versionedEnd
  exact ⟨broken (by decide), ended (by decide) (by decide) (by decide), by decide +kernel,
    (kept (by decide)).1, drops, versionedEnd⟩

/-- A carriage return at the very end that is kept is taken away by ending the line. -/
theorem not_forall_text_concat_newline :
    ¬ ∀ source : List Char, source ≠ [] → source.getLast? ≠ some '\n' →
      (canonicalize (source ++ ['\n'])).text = (canonicalize source).text := by
  intro same
  have ended := same "void main() \x7b \x7d\r".toList (by decide) (by decide)
  revert ended
  decide +kernel

end ShaderFilm.Shader
