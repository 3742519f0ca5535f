import ShaderFilm.Proofs.Shader.Definition
import ShaderFilm.Proofs.Shader.Entry

/-!
# Sources without comments

Outputs and functions are looked for in the code of a line (`OfCode`), while its kind is taken from
the whole line, comment included.  Only the kinds of directives and of lines that begin with
`uniform` depend on what stands in the comment (`LineKind.of_codePart`).  Where none of these gets
another kind by its comment, comments do not influence the program (`ignoresComments`); a comment
that names a standard uniform, or that stands behind a guard, does (`not_ignoresComments`).
-/

namespace ShaderFilm.Shader

open ShaderFilm.Text

/-- A text without the comments on its lines. -/
def uncomment (text : List Char) : List Char :=
  ['\n'].intercalate ((text.splitOn '\n').map codePart)

/-- Comments do not influence the program: a text with the lines of the source, but without their
comments, has the same program, comments aside. -/
def IgnoresComments (source : List Char) : Prop :=
  ∀ bare, lines bare = (lines source).map codePart →
    (canonicalize bare).outputName = (canonicalize source).outputName ∧
      (canonicalize bare).addsOutput = (canonicalize source).addsOutput ∧
      (canonicalize bare).addsEntry = (canonicalize source).addsEntry ∧
      uncomment (canonicalize bare).text = uncomment (canonicalize source).text

/-! ### What is seen of the code -/

/-- What is seen of a line depends neither on its comment nor on blanks at the end of its code. -/
structure OfCode {α : Type} (f : List Char → α) : Prop where
  code : ∀ line, f (codePart line) = f line
  blank : ∀ {c : Char} (s : List Char), isBlank c = true → f (s ++ [c]) = f s

theorem codePart_renameOutput (line : List Char) :
    codePart (renameOutput line) = renameOutput (codePart line) :=
  codePart_replaceAll outputNames line

/-- A line that is taken over without its comment is seen as it is with the comment. -/
theorem OfCode.tidy {α : Type} {f : List Char → α} (ofCode : OfCode f) (line : List Char) :
    f (tidy (codePart line)) = f (tidy line) := by
  have same (line : List Char) : f (dropReturn line) = f line :=
    apply_dropReturn (fun s => ofCode.blank s (by decide)) line
  rw [Shader.tidy, Shader.tidy, same, same, ← codePart_renameOutput, ofCode.code]

theorem ofCode_outputName? : OfCode outputName? where
  code line := by
    unfold outputName?
    rw [codePart_codePart]
  blank s blank := by
    unfold outputName?
    rw [codePart_concat_blank (fun s => trim_concat_blank blank s) blank]

theorem ofCode_lineDefines {name : List Char} (ident : ∀ c ∈ name, isIdentChar c = true)
    (nonempty : name ≠ []) : OfCode (lineDefines name) where
  code line := by rw [lineDefines, codePart_codePart, lineDefines]
  blank s blank := by
    rw [lineDefines, lineDefines]
    exact codePart_concat_blank (f := fun code => definesFrom code name 0)
      (definesFrom_concat_blank ident nonempty blank) blank s

/-! ### Kinds of lines and of their code -/

theorem head?_trimStart_codePart {line : List Char} {c : Char}
    (first : (trimStart (codePart line)).head? = some c) : (trimStart line).head? = some c := by
  obtain ⟨comment, whole, -⟩ := exists_comment line
  obtain ⟨rest, split⟩ := List.head?_eq_some_iff.1 first
  rw [trimStart] at split
  rw [← whole, trimStart, List.dropWhile_append, split]
  rfl

/-- Beside directives and declarations of uniforms, the comment of a line is of no concern to its
kind. -/
theorem LineKind.of_codePart {line : List Char} (directive : (trimStart line).head? ≠ some '#')
    (uniform : firstWord (trimStart line) ≠ "uniform".toList) : of (codePart line) = of line := by
  have word : firstWord (trimStart (codePart line)) = firstWord (trimStart line) := by
    rw [← firstWord_trim_codePart line, trim, firstWord_trimEnd]
  have statement {s : List Char} (plain : (trimStart s).head? ≠ some '#')
      (other : firstWord (trimStart s) ≠ "uniform".toList) :
      of s = if firstWord (trimStart s) = "precision".toList then .precision else .body := by
    unfold of
    split
    · next hash => simp [hash] at plain
    · rw [ofStatement, if_neg other]
  rw [statement directive uniform, statement (mt head?_trimStart_codePart directive) (by rwa [word]),
    word]

/-! ### Lines without their comments -/

theorem keptLines_map {f : List Char → List Char} {ls : List (List Char)}
    (same : ∀ line ∈ ls, LineKind.of (f line) = LineKind.of line) (nesting : List Bool) :
    keptLines nesting (ls.map f) = (keptLines nesting ls).map f := by
  induction ls generalizing nesting with
  | nil => rfl
  | cons line rest ih =>
    have inner := ih fun l mem => same l (List.mem_cons_of_mem line mem)
    rw [List.map_cons, keptLines, keptLines, same line List.mem_cons_self]
    cases LineKind.of line with
    | closer =>
      dsimp only
      split
      · exact inner _
      · rw [inner, List.map_cons]
    | opener | body => exact congrArg (f line :: ·) (inner _)
    | version | guard | precision | standardUniform => exact inner _

theorem splitOn_unlines_append {ls : List (List Char)} (unbroken : ∀ line ∈ ls, '\n' ∉ line)
    (rest : List Char) : (unlines ls ++ rest).splitOn '\n' = ls ++ rest.splitOn '\n' := by
  induction ls with
  | nil => rfl
  | cons line more ih =>
    have inner := ih fun l mem => unbroken l (List.mem_cons_of_mem line mem)
    rw [unlines_cons, List.append_assoc, List.cons_append,
      List.splitOn_append_cons_self_of_not_mem (unbroken line List.mem_cons_self), inner,
      List.cons_append]

theorem intercalate_append (ls : List (List Char)) {rest : List (List Char)} (some : rest ≠ []) :
    ['\n'].intercalate (ls ++ rest) = unlines ls ++ ['\n'].intercalate rest := by
  induction ls with
  | nil => rfl
  | cons line more ih =>
    rw [List.cons_append, List.intercalate_cons_of_ne_nil (by simp [some]), ih, unlines_cons,
      List.append_assoc, List.append_assoc, List.singleton_append, List.cons_append]

theorem uncomment_unlines_append {ls : List (List Char)} (unbroken : ∀ line ∈ ls, '\n' ∉ line)
    (rest : List Char) :
    uncomment (unlines ls ++ rest) = unlines (ls.map codePart) ++ uncomment rest := by
  have some : (rest.splitOn '\n').map codePart ≠ [] := by simp [List.splitOn_ne_nil]
  rw [uncomment, splitOn_unlines_append unbroken, List.map_append, intercalate_append _ some,
    uncomment]

theorem uncomment_unlines {ls : List (List Char)} (unbroken : ∀ line ∈ ls, '\n' ∉ line) :
    uncomment (unlines ls) = unlines (ls.map codePart) := by
  have whole := uncomment_unlines_append unbroken []
  rwa [List.append_nil, show uncomment [] = [] by decide, List.append_nil] at whole

/-- Where no line has a carriage return in it, taking the comments away leaves the code of each. -/
theorem lines_uncomment {ls : List (List Char)} (plain : ∀ line ∈ ls, '\n' ∉ line ∧ '\r' ∉ line) :
    lines (uncomment (unlines ls)) = (lines (unlines ls)).map codePart := by
  have code : ∀ line ∈ ls.map codePart, '\n' ∉ line ∧ '\r' ∉ line := by
    intro line mem
    obtain ⟨whole, inLines, rfl⟩ := List.mem_map.1 mem
    have sub : codePart whole ⊆ whole := (codePart_isPrefix whole).subset
    exact ⟨mt (@sub _) (plain whole inLines).1, mt (@sub _) (plain whole inLines).2⟩
  rw [uncomment_unlines fun line mem => (plain line mem).1, lines_unlines_of_plain code,
    lines_unlines_of_plain plain]

/-- A program without its comments has the code of the lines that are added and of those that are
kept. -/
theorem uncomment_text (source : List Char) :
    let p := canonicalize source
    uncomment p.text =
      unlines ((Canonical.versionLine :: p.openingLines).map codePart) ++
        (unlines ((keptLines [] (lines source)).map fun line => renameOutput (codePart line)) ++
          unlines (p.entryLines.map codePart)) := by
  intro p
  have opening : ∀ line ∈ Canonical.versionLine :: p.openingLines, '\n' ∉ line := by
    intro line mem
    rcases List.mem_cons.1 mem with rfl | later
    · exact unbroken_versionLine.1
    · exact (unbroken_of_plain (plain_openingLines p) line later).1
  have entry : ∀ line ∈ p.entryLines, '\n' ∉ line := fun line mem =>
    (unbroken_of_plain (plain_entryLines source) line mem).1
  have body : p.body = unlines ((keptLines [] (lines source)).map renameOutput) := rfl
  rw [Canonical.text_eq_unlines, uncomment_unlines_append opening, body,
    uncomment_unlines_append (newline_not_mem_kept source), uncomment_unlines entry, List.map_map]
  simp only [Function.comp_def, codePart_renameOutput]

/-! ### Programs with the same code -/

/-- The lines that two programs take over are seen as the same. -/
def SameCode (s t : List Char) : Prop :=
  ∀ ⦃α : Type⦄ ⦃f : List Char → α⦄, OfCode f →
    (lines (canonicalize s).body).map f = (lines (canonicalize t).body).map f

namespace SameCode

variable {s t : List Char} (same : SameCode s t)
include same

theorem declared : (canonicalize s).declared = (canonicalize t).declared := by
  have seen := congrArg (List.findSome? id) (same ofCode_outputName?)
  rwa [List.findSome?_map, List.findSome?_map] at seen

theorem outputName : (canonicalize s).outputName = (canonicalize t).outputName := by
  rw [Canonical.outputName, same.declared, Canonical.outputName]

theorem addsOutput : (canonicalize s).addsOutput = (canonicalize t).addsOutput := by
  rw [Canonical.addsOutput, same.declared, Canonical.addsOutput]

theorem defines {name : List Char} (ident : ∀ c ∈ name, isIdentChar c = true)
    (nonempty : name ≠ []) :
    defines (canonicalize s).body name = defines (canonicalize t).body name := by
  have seen := congrArg (List.any · id) (same (ofCode_lineDefines ident nonempty))
  rwa [List.any_map, List.any_map] at seen

theorem addsEntry : (canonicalize s).addsEntry = (canonicalize t).addsEntry := by
  have mainImage : Shader.defines (canonicalize s).body "mainImage".toList =
      Shader.defines (canonicalize t).body "mainImage".toList :=
    same.defines (List.all_eq_true.1 (by decide)) (by decide)
  have main : Shader.defines (canonicalize s).body "main".toList =
      Shader.defines (canonicalize t).body "main".toList :=
    same.defines (List.all_eq_true.1 (by decide)) (by decide)
  rw [Bool.eq_iff_iff, addsEntry_iff, addsEntry_iff, mainImage, main]

/-- The lines that are added come from the code alone. -/
theorem openingLines : (canonicalize s).openingLines = (canonicalize t).openingLines := by
  rw [Canonical.openingLines, same.addsOutput, Canonical.openingLines]

theorem entryLines : (canonicalize s).entryLines = (canonicalize t).entryLines := by
  rw [Canonical.entryLines, same.addsEntry, same.outputName, Canonical.entryLines]

end SameCode

/-! ### Programs of sources without comments -/

section Kept

variable {source bare : List Char}
  (kept : keptLines [] (lines bare) = (keptLines [] (lines source)).map codePart)
include kept

/-- The lines of the body are seen as they are with their comments. -/
theorem sameCode_of_kept : SameCode bare source := by
  intro α f ofCode
  rw [lines_body, lines_body, kept, List.map_map, List.map_map, List.map_map]
  exact List.map_congr_left fun line _ => ofCode.tidy line

/-- Where the same lines are kept, comments aside, the program is the same, comments aside. -/
theorem canonicalize_of_kept :
    (canonicalize bare).outputName = (canonicalize source).outputName ∧
      (canonicalize bare).addsOutput = (canonicalize source).addsOutput ∧
      (canonicalize bare).addsEntry = (canonicalize source).addsEntry ∧
      uncomment (canonicalize bare).text = uncomment (canonicalize source).text := by
  have same := sameCode_of_kept kept
  refine ⟨same.outputName, same.addsOutput, same.addsEntry, ?_⟩
  rw [uncomment_text, uncomment_text, same.openingLines, same.entryLines, kept, List.map_map]
  simp only [Function.comp_def, codePart_codePart]

end Kept

/-- Comments do not influence the program unless one changes the kind of a directive or of a line
that begins with `uniform`. -/
theorem ignoresComments {source : List Char}
    (same : ∀ line ∈ lines source, (trimStart line).head? = some '#' ∨
      firstWord (trimStart line) = "uniform".toList →
        LineKind.of (codePart line) = LineKind.of line) : IgnoresComments source := by
  intro bare split
  refine canonicalize_of_kept ?_
  rw [split, keptLines_map]
  intro line mem
  by_cases concerned : (trimStart line).head? = some '#' ∨
      firstWord (trimStart line) = "uniform".toList
  · exact same line mem concerned
  · obtain ⟨directive, uniform⟩ := not_or.1 concerned
    exact LineKind.of_codePart directive uniform

/-- Comments behind what is left out, behind the declaration of an output and of a function, and a
definition within a comment. -/
theorem ignoresComments_commented :
    let ls := ["#version 300 es // ES", "precision highp float; // u_time",
      "uniform float u_time; // seconds", "uniform float u_gain; // gain",
      "out vec4 color; // out vec4 other;", "// void main() \x7b \x7d",
      "void mainImage(out vec4 c, in vec2 p) \x7b c = vec4(u_gain); \x7d // void main()"].map
      String.toList
    (canonicalize (uncomment (unlines ls))).outputName = "color".toList ∧
      (canonicalize (uncomment (unlines ls))).addsEntry = true := by
  intro ls
  have split : lines (uncomment (unlines ls)) = (lines (unlines ls)).map codePart :=
    lines_uncomment (by decide +kernel)
  have ignores : IgnoresComments (unlines ls) := ignoresComments (by decide +kernel)
  obtain ⟨output, -, entry, -⟩ := ignores _ split
  rw [output, entry]
  decide +kernel

/-- A comment that names a standard uniform has the declaration of another one dropped, and one
behind a guard has the guard kept. -/
theorem not_ignoresComments :
    let named := ["uniform float u_gain; // replaces u_time",
      "void main() \x7b gl_FragColor = vec4(u_gain); \x7d"].map String.toList
    let guarded := ["#ifdef GL_ES // legacy", "precision mediump float;", "#endif",
      "void main() \x7b \x7d"].map String.toList
    ¬ IgnoresComments (unlines named) ∧ ¬ IgnoresComments (unlines guarded) := by
  intro named guarded
  constructor
  · intro ignores
    have same := (ignores _ (lines_uncomment (by decide +kernel))).2.2.2
    revert same
    decide +kernel
  · intro ignores
    have same := (ignores _ (lines_uncomment (by decide +kernel))).2.2.2
    revert same
    decide +kernel

end ShaderFilm.Shader
