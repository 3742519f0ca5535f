import ShaderFilm.Proofs.Shader.Conditional
import ShaderFilm.Proofs.Shader.Uniform

/-!
# Statements of the source

Lines are kept or left out as a whole (`keptLines_eq_filter`).  So no statement is lost from a line
that begins neither as a precision nor as the declaration of a standard uniform
(`statement_isInfix_text`), while a statement behind one of these on the same line is
(`not_keepsStatements`).
-/

namespace ShaderFilm.Shader

open ShaderFilm.Text

/-- The statements on a line, between semicolons. -/
def statements (line : List Char) : List (List Char) := (codePart line).splitOn ';'

/-- Whether a statement is a precision, or the declaration of a standard uniform. -/
def isStatedStatement (statement : List Char) : Bool :=
  firstWord (trimStart statement) = "precision".toList ∨
    firstWord (trimStart statement) = "uniform".toList ∧ LineKind.namesStandardUniform statement

/-- Whether a line, given the conditionals around it, is a directive that is left out: a version, or
one end of a guard. -/
def isGoneDirective (x : List Bool × List Char) : Bool :=
  LineKind.of x.2 = .version ∨ isGuard x.2 ∨ part? x.2 = some .closer ∧ x.1.head? = some true

/-- Whether a line, given the conditionals around it, is kept. -/
def isKept (x : List Bool × List Char) : Bool :=
  !isGoneDirective x && LineKind.of x.2 ∉ [LineKind.precision, .standardUniform]

/-- Every statement occurs in the program, renamed, unless it is one that every program states
itself or belongs to a directive that is left out. -/
def KeepsStatements (source : List Char) : Prop :=
  ∀ x ∈ within part? [] (lines source), isGoneDirective x = false →
    ∀ s ∈ statements x.2, s.all isBlank = false → isStatedStatement s = false →
      renameOutput s <:+: (canonicalize source).text

/-! ### Lines that are kept -/

theorem keptLines_cons_eq_append (nesting : List Bool) (line : List Char)
    (rest : List (List Char)) :
    keptLines nesting (line :: rest) =
      (if isKept (nesting, line) then [line] else []) ++
        keptLines (enter part? nesting line) rest := by
  have agree := agree line
  rw [keptLines, isKept, isGoneDirective, enter, isGuard]
  dsimp only
  generalize LineKind.of line = kind at agree ⊢
  generalize part? line = part at agree ⊢
  cases agree with
  | closer => by_cases guarded : nesting.head? = some true <;> simp [guarded]
  | _ => simp

theorem keptLines_append (nesting : List Bool) (front rest : List (List Char)) :
    keptLines nesting (front ++ rest) =
      keptLines nesting front ++ keptLines (front.foldl (enter part?) nesting) rest := by
  induction front generalizing nesting with
  | nil => rfl
  | cons line front ih =>
    rw [List.cons_append, keptLines_cons_eq_append, ih, keptLines_cons_eq_append,
      List.append_assoc, List.foldl_cons]

theorem keptLines_singleton (nesting : List Bool) (line : List Char) :
    keptLines nesting [line] = [] ∨ keptLines nesting [line] = [line] := by
  rw [keptLines_cons_eq_append]
  split
  · exact .inr rfl
  · exact .inl rfl

/-- The kept lines are those that are kept within the conditionals around them. -/
theorem keptLines_eq_filter (nesting : List Bool) (ls : List (List Char)) :
    keptLines nesting ls = ((within part? nesting ls).filter isKept).map Prod.snd := by
  induction ls generalizing nesting with
  | nil => rfl
  | cons line rest ih =>
    rw [keptLines_cons_eq_append, ih, within, List.filter_cons]
    split <;> rfl

theorem namesStandardUniform_trimStart (line : List Char) :
    LineKind.namesStandardUniform (trimStart line) = LineKind.namesStandardUniform line := by
  have same (u : StandardUniform) :
      hasWord (trimStart line) u.name.toList = hasWord line u.name.toList := by
    rw [Bool.eq_iff_iff, hasWord_iff_standing (ident_name u) (name_ne_nil u),
      hasWord_iff_standing (ident_name u) (name_ne_nil u)]
    exact ⟨.of_trimStart, .trimStart (ident_name u) (name_ne_nil u)⟩
  simp only [LineKind.namesStandardUniform, same]

theorem LineKind.of_not_mem {line : List Char}
    (precision : firstWord (trimStart line) ≠ "precision".toList)
    (uniform : firstWord (trimStart line) = "uniform".toList → namesStandardUniform line = false) :
    of line ∉ [LineKind.precision, .standardUniform] := by
  unfold of
  split
  · unfold ofDirective
    dsimp only
    split_ifs <;> decide
  · unfold ofStatement
    dsimp only
    split_ifs with first word names
    · exact absurd first precision
    · rw [namesStandardUniform_trimStart, uniform word] at names
      cases names
    · decide
    · decide

theorem isKept_iff (x : List Bool × List Char) :
    isKept x = true ↔
      isGoneDirective x = false ∧ LineKind.of x.2 ∉ [LineKind.precision, .standardUniform] := by
  rw [isKept, Bool.and_eq_true, Bool.not_eq_true', decide_eq_true_iff]

/-! ### Statements that are kept -/

/-- What stands between two semicolons of the code occurs in the line that is taken over. -/
theorem renameOutput_isInfix {line s : List Char} (mem : s ∈ statements line) :
    renameOutput s <:+: renameOutput line := by
  obtain ⟨comment, whole, slash⟩ := exists_comment line
  obtain ⟨before, after, code, ends, begins⟩ := exists_of_mem_splitOn (by decide) mem
  have inCode : renameOutput s <:+: renameOutput (codePart line) := by
    rw [code]
    exact replaceAll_isInfix outputNames.old_ne_nil outputNames.old_ident ends begins
  have inLine : renameOutput (codePart line) <:+: renameOutput ([] ++ (codePart line ++ comment)) :=
    replaceAll_isInfix outputNames.old_ne_nil outputNames.old_ident (by simp [EndsApart])
      (beginsApart_of_slash slash)
  rw [List.nil_append, whole] at inLine
  exact inCode.trans inLine

theorem Canonical.body_isInfix_text (p : Canonical) : p.body <:+: p.text := by
  rw [text_eq_unlines]
  exact (List.prefix_append p.body _).isInfix.trans (List.suffix_append _ _).isInfix

/-- A line that is kept occurs in the program, renamed. -/
theorem renameOutput_isInfix_text {source : List Char} {x : List Bool × List Char}
    (mem : x ∈ within part? [] (lines source)) (kept : isKept x = true) :
    renameOutput x.2 <:+: (canonicalize source).text := by
  have inKept : x.2 ∈ keptLines [] (lines source) := by
    rw [keptLines_eq_filter]
    exact List.mem_map.2 ⟨x, List.mem_filter.2 ⟨mem, kept⟩, rfl⟩
  have inBody : renameOutput x.2 <:+: (canonicalize source).body :=
    isInfix_unlines_of_mem (List.mem_map.2 ⟨x.2, inKept, rfl⟩)
  exact inBody.trans (canonicalize source).body_isInfix_text

/-- No statement is lost from a line that begins neither as a precision nor as the declaration of a
standard uniform, and is no directive that is left out. -/
theorem statement_isInfix_text {source : List Char} {x : List Bool × List Char} {s : List Char}
    (mem : x ∈ within part? [] (lines source)) (directive : isGoneDirective x = false)
    (precision : firstWord (trimStart x.2) ≠ "precision".toList)
    (uniform : firstWord (trimStart x.2) = "uniform".toList →
      LineKind.namesStandardUniform x.2 = false)
    (inLine : s ∈ statements x.2) : renameOutput s <:+: (canonicalize source).text := by
  have kept : isKept x = true :=
    (isKept_iff x).2 ⟨directive, LineKind.of_not_mem precision uniform⟩
  exact (renameOutput_isInfix inLine).trans (renameOutput_isInfix_text mem kept)

/-- A line of several statements behind a guard, with a precision among them and a comment. -/
theorem statement_isInfix_text_shared :
    let source := unlines (["#ifdef GL_ES", "precision highp float;", "#endif",
      "  uniform float u_gain; precision mediump float; float g = gl_FragColor.r; // red"].map
      String.toList)
    let line := "  uniform float u_gain; precision mediump float; float g = gl_FragColor.r; // red"
    ([], line.toList) ∈ within part? [] (lines source) ∧
      isGoneDirective ([], line.toList) = false ∧
      " float g = gl_FragColor.r".toList ∈ statements line.toList ∧
      " float g = fragColor.r".toList <:+: (canonicalize source).text := by
  intro source line
  have mem : ([], line.toList) ∈ within part? [] (lines source) := by decide +kernel
  have directive : isGoneDirective ([], line.toList) = false := by decide +kernel
  have inLine : " float g = gl_FragColor.r".toList ∈ statements line.toList := by decide +kernel
  refine ⟨mem, directive, inLine, ?_⟩
  have occurs : renameOutput " float g = gl_FragColor.r".toList <:+: (canonicalize source).text :=
    statement_isInfix_text mem directive (by decide +kernel) (by decide +kernel) inLine
  exact occurs

/-- What stands behind a precision, or behind the declaration of a standard uniform, is lost with
the line. -/
theorem not_keepsStatements :
    ¬ KeepsStatements ("precision mediump float; uniform float u_gain;\n" ++
        "void main() \x7b gl_FragColor = vec4(u_gain); \x7d\n").toList ∧
      ¬ KeepsStatements ("uniform vec2 u_resolution; uniform float u_gain;\n" ++
        "void main() \x7b gl_FragColor = vec4(u_gain); \x7d\n").toList := by
  constructor
  · intro keeps
    have occurs := keeps ([], "precision mediump float; uniform float u_gain;".toList)
      (by decide +kernel) (by decide +kernel) " uniform float u_gain".toList (by decide +kernel)
      (by decide +kernel) (by decide +kernel)
    revert occurs
    decide +kernel
  · intro keeps
    have occurs := keeps ([], "uniform vec2 u_resolution; uniform float u_gain;".toList)
      (by decide +kernel) (by decide +kernel) " uniform float u_gain".toList (by decide +kernel)
      (by decide +kernel) (by decide +kernel)
    revert occurs
    decide +kernel

end ShaderFilm.Shader
