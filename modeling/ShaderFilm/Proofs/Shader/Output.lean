import ShaderFilm.Proofs.Shader.Canonical
import ShaderFilm.Proofs.Shader.Comment
import ShaderFilm.Proofs.Text.Occurrence

/-!
# Outputs of the canonical program

The legacy output is gone from a program altogether (`legacyOutput_not_isInfix_text`).  The outputs
that a program declares are those of its body, or the default one if the body declares none; the
first of them is the one that the program writes (`declaredOutputs_text`).
-/

namespace ShaderFilm.Shader

open ShaderFilm.Text

/-! ### Declarations of outputs -/

theorem skipLayout_isSuffix {line rest : List Char} (h : skipLayout line = some rest) :
    rest <:+ line := by
  unfold skipLayout at h
  split at h
  · obtain ⟨⟨before, after⟩, cut, same⟩ := Option.map_eq_some_iff.1 h
    cases same
    rw [cutAt_eq_some cut]
    exact (trimStart_isSuffix after).trans (List.suffix_append _ after)
  · cases h
    exact List.suffix_rfl

/-- The name of an output is taken from the line that declares it. -/
theorem outputName?_isInfix {line name : List Char} (h : outputName? line = some name) :
    name <:+: line := by
  obtain ⟨rest, statement, after, skipped, -, cut, -, found, -⟩ := outputName?_eq_some h
  have inStatement : name <:+: statement := isInfix_of_mem_words (List.mem_of_getLast? found)
  have inDrop : statement <:+: rest.drop 3 := by
    rw [cutAt_eq_some cut, List.append_assoc]
    exact (List.prefix_append statement _).isInfix
  have inRest : statement <:+: rest := inDrop.trans (List.drop_suffix 3 rest).isInfix
  have inCode : rest <:+: codePart line :=
    (skipLayout_isSuffix skipped).isInfix.trans (trim_isInfix _)
  exact ((inStatement.trans inRest).trans inCode).trans (codePart_isPrefix line).isInfix

theorem outputName?_of_firstWord {line : List Char}
    (noLayout : firstWord (trimStart line) ≠ "layout".toList)
    (noOutput : firstWord (trimStart line) ≠ "out".toList) : outputName? line = none := by
  rw [← firstWord_trim_codePart] at noLayout noOutput
  have skipped : skipLayout (trim (codePart line)) = some (trim (codePart line)) :=
    if_neg noLayout
  rw [outputName?, skipped]
  show (if firstWord (trim (codePart line)) ≠ "out".toList then none else _) = none
  exact if_pos noOutput

/-! ### The legacy output -/

theorem legacyOutput_not_isInfix_renameOutput (line : List Char) :
    ¬ legacyOutput <:+: renameOutput line :=
  not_isInfix_replaceAll outputNames.old_ne_nil (by decide) (by decide) line

theorem legacyOutput_not_isInfix_tidy (line : List Char) : ¬ legacyOutput <:+: tidy line := by
  have shorter : tidy line <:+: renameOutput line := by
    rw [tidy, dropReturn]
    split
    · exact (List.dropLast_prefix _).isInfix
    · exact List.infix_rfl
  exact fun occurs => legacyOutput_not_isInfix_renameOutput line (occurs.trans shorter)

theorem legacyOutput_not_isInfix_outputName (source : List Char) :
    ¬ legacyOutput <:+: (canonicalize source).outputName := by
  rw [Canonical.outputName]
  cases found : (canonicalize source).declared with
  | none => decide
  | some name =>
    obtain ⟨line, mem, declares⟩ := List.exists_of_findSome?_eq_some found
    change line ∈ lines (canonicalize source).body at mem
    rw [lines_body] at mem
    obtain ⟨kept, -, rfl⟩ := List.mem_map.1 mem
    exact fun occurs =>
      legacyOutput_not_isInfix_tidy kept (occurs.trans (outputName?_isInfix declares))

theorem legacyOutput_not_isInfix_assignment {output : List Char}
    (free : ¬ legacyOutput <:+: output) : ¬ legacyOutput <:+: Canonical.assignment output := by
  have lacks : ' ' ∉ legacyOutput := by decide
  have split : Canonical.assignment output =
      "   ".toList ++ ' ' :: (output ++ ' ' :: "= shadereel_color;".toList) := rfl
  rw [split, isInfix_append_cons_iff lacks, isInfix_append_cons_iff lacks]
  rintro (indent | inOutput | rest)
  · revert indent
    decide
  · exact free inOutput
  · revert rest
    decide

/-- An entry point that is added ends the program, and it ends with the assignment. -/
theorem Canonical.assignment_isSuffix {source : List Char}
    (adds : (canonicalize source).addsEntry = true) :
    [assignment (canonicalize source).outputName, "\x7d".toList] <:+
      lines (canonicalize source).text := by
  have inEntry : [assignment (canonicalize source).outputName, "\x7d".toList] <:+
      callingLines (canonicalize source).outputName :=
    List.drop_suffix 4 (callingLines (canonicalize source).outputName)
  rw [lines_text, entryLines, if_pos adds]
  exact inEntry.trans (List.suffix_append (versionLine :: (openingLines _ ++ lines _)) _)

theorem legacyOutput_not_isInfix_lines (source : List Char) :
    ∀ line ∈ Canonical.versionLine :: (canonicalize source).openingLines ++
        (keptLines [] (lines source)).map renameOutput ++ (canonicalize source).entryLines,
      ¬ legacyOutput <:+: line := by
  have opening : ∀ line ∈ (canonicalize source).openingLines, ¬ legacyOutput <:+: line := by
    refine Canonical.forall_openingLines ?_ ?_ ?_ (canonicalize source)
    · decide
    · intro u
      cases u <;> decide +kernel
    · decide
  have entry : ∀ line ∈ (canonicalize source).entryLines, ¬ legacyOutput <:+: line := by
    refine Canonical.forall_entryLines (Canonical.forall_callingLines (by decide) ?_)
    exact legacyOutput_not_isInfix_assignment (legacyOutput_not_isInfix_outputName source)
  intro line mem
  rcases List.mem_append.1 mem with mem | last
  · rcases List.mem_append.1 mem with first | kept
    · rcases List.mem_cons.1 first with rfl | first
      · decide
      · exact opening line first
    · obtain ⟨stem, -, rfl⟩ := List.mem_map.1 kept
      exact legacyOutput_not_isInfix_renameOutput stem
  · exact entry line last

/-- The legacy output occurs nowhere in a program.  An entry point that is added ends the program,
and writes the output of the program. -/
theorem legacyOutput_not_isInfix_text (source : List Char) :
    ¬ legacyOutput <:+: (canonicalize source).text ∧
      ((canonicalize source).addsEntry = true →
        ["    ".toList ++ (canonicalize source).outputName ++ " = shadereel_color;".toList,
          "\x7d".toList] <:+ lines (canonicalize source).text) := by
  constructor
  · have joined : (canonicalize source).text =
        unlines (Canonical.versionLine :: (canonicalize source).openingLines ++
          (keptLines [] (lines source)).map renameOutput ++ (canonicalize source).entryLines) := by
      rw [Canonical.text_eq_unlines, unlines_append, unlines_append, List.append_assoc]
      rfl
    rw [joined, isInfix_unlines_iff (by decide) (by decide)]
    rintro ⟨line, mem, occurs⟩
    exact legacyOutput_not_isInfix_lines source line mem occurs
  · exact Canonical.assignment_isSuffix

/-! ### Declared outputs -/

theorem outputName?_assignment {output : List Char} (ident : ∀ c ∈ output, isIdentChar c = true) :
    outputName? (Canonical.assignment output) = none := by
  -- only these two words could begin a declaration, and the line goes on as none
  by_cases layout : output = "layout".toList
  · rw [layout]
    decide
  · by_cases out : output = "out".toList
    · rw [out]
      decide
    · have word := Canonical.firstWord_assignment ident
      exact outputName?_of_firstWord (by rwa [word]) (by rwa [word])

theorem outputName?_callingLines {output : List Char}
    (ident : ∀ c ∈ output, isIdentChar c = true) :
    ∀ line ∈ Canonical.callingLines output, outputName? line = none :=
  Canonical.forall_callingLines (by decide) (outputName?_assignment ident)

theorem outputName?_declaration (u : StandardUniform) :
    outputName? u.declaration.toList = none := by
  cases u <;> decide +kernel

theorem outputName?_header : ∀ line ∈ lines Canonical.header, outputName? line = none := by
  intro line mem
  rw [Canonical.lines_header] at mem
  simp only [List.mem_cons, List.mem_map] at mem
  rcases mem with rfl | rfl | ⟨u, -, rfl⟩
  · decide
  · decide
  · exact outputName?_declaration u

theorem Canonical.filterMap_openingLines (p : Canonical) :
    p.openingLines.filterMap outputName? = if p.addsOutput then [defaultOutput] else [] := by
  have uniforms : (StandardUniform.all.map (·.declaration.toList)).filterMap outputName? = [] := by
    rw [List.filterMap_eq_nil_iff]
    intro line mem
    obtain ⟨u, -, rfl⟩ := List.mem_map.1 mem
    exact outputName?_declaration u
  have blank : outputName? [] = none := by decide
  rw [openingLines, List.filterMap_append, List.filterMap_append, List.filterMap_cons_none blank,
    uniforms]
  cases p.addsOutput <;> decide

/-- The names that the lines of a text declare as outputs. -/
def declaredOutputs (text : List Char) : List (List Char) := (lines text).filterMap outputName?

theorem declaredOutputs_eq (source : List Char) :
    declaredOutputs (canonicalize source).text =
      (if (canonicalize source).addsOutput then [defaultOutput] else []) ++
        declaredOutputs (canonicalize source).body := by
  have version : outputName? Canonical.versionLine = none := by decide
  have entry : (canonicalize source).entryLines.filterMap outputName? = [] :=
    List.filterMap_eq_nil_iff.2
      (Canonical.forall_entryLines (outputName?_callingLines (outputName_ident source)))
  rw [declaredOutputs, lines_text, List.filterMap_cons_none version, List.filterMap_append,
    List.filterMap_append, Canonical.filterMap_openingLines, entry, List.append_nil]
  rfl

theorem declared_eq_head? (source : List Char) :
    (canonicalize source).declared = (declaredOutputs (canonicalize source).body).head? :=
  List.head?_filterMap.symm

theorem addsOutput_eq_isEmpty (source : List Char) :
    (canonicalize source).addsOutput = (declaredOutputs (canonicalize source).body).isEmpty := by
  rw [Canonical.addsOutput, declared_eq_head?]
  cases declaredOutputs (canonicalize source).body <;> rfl

theorem head?_declaredOutputs (source : List Char) :
    (declaredOutputs (canonicalize source).text).head? =
      some (canonicalize source).outputName := by
  rw [declaredOutputs_eq, addsOutput_eq_isEmpty, Canonical.outputName, declared_eq_head?]
  cases declaredOutputs (canonicalize source).body <;> rfl

/-- A program declares the outputs of its body, or the default one if there are none, and writes the
first of them.  Nothing else is taken for the declaration of an output, whatever an entry point
writes to. -/
theorem declaredOutputs_text (source : List Char) :
    declaredOutputs (canonicalize source).text =
        (if declaredOutputs (canonicalize source).body = [] then [defaultOutput]
        else declaredOutputs (canonicalize source).body) ∧
      ((declaredOutputs (canonicalize source).body).length ≤ 1 →
        (declaredOutputs (canonicalize source).text).length = 1) ∧
      ((canonicalize source).addsOutput = true ↔
        declaredOutputs (canonicalize source).body = []) ∧
      (declaredOutputs (canonicalize source).text).head? =
        some (canonicalize source).outputName ∧
      (∀ line ∈ lines Canonical.header, outputName? line = none) ∧
      ∀ output : List Char, (∀ c ∈ output, isIdentChar c = true) →
        ∀ line ∈ lines (Canonical.entry output), outputName? line = none := by
  have same : declaredOutputs (canonicalize source).text =
      if declaredOutputs (canonicalize source).body = [] then [defaultOutput]
      else declaredOutputs (canonicalize source).body := by
    rw [declaredOutputs_eq, addsOutput_eq_isEmpty]
    cases declaredOutputs (canonicalize source).body <;> rfl
  refine ⟨same, fun short => ?_, ?_, head?_declaredOutputs source, outputName?_header,
    fun output ident => ?_⟩
  · rw [same]
    split
    · rfl
    · next some =>
      have := List.length_pos_iff.2 some
      omega
  · rw [addsOutput_eq_isEmpty, List.isEmpty_iff]
  · rw [Canonical.lines_entry ident]
    exact outputName?_callingLines ident

end ShaderFilm.Shader
