import ShaderFilm.Proofs.Shader.Canonical
import ShaderFilm.Proofs.Shader.Comment
import ShaderFilm.Proofs.Text.Occurrence

/-!
# Declarations of the standard uniforms

A line declares a standard uniform if it begins with `uniform`, or with a layout behind which there
is `uniform`, and names it in its code.  The program declares each one itself and drops the
declarations of the source that begin with `uniform`; those that begin with a layout are taken over,
so that the uniform is declared once more for each of them (`countP_declares_text`).
-/

namespace ShaderFilm.Shader

open ShaderFilm.Text

/-- Whether a line begins with a layout and has `uniform` in it. -/
def isLayoutUniform (line : List Char) : Bool :=
  firstWord (trimStart line) = "layout".toList ∧ "uniform".toList <:+: line

/-- Whether a line declares the standard uniform: it begins as a declaration of uniforms does, and
the name stands alone in its code. -/
def declares (u : StandardUniform) (line : List Char) : Bool :=
  (firstWord (trimStart line) = "uniform".toList ∨ isLayoutUniform line) ∧
    hasWord (codePart line) u.name.toList

/-! ### Kinds of declarations -/

theorem LineKind.of_statement {line : List Char} (word : firstWord (trimStart line) ≠ []) :
    of line = ofStatement (trimStart line) := by
  unfold of
  split
  · next directive hash =>
    rw [hash] at word
    exact absurd rfl word
  · rfl

theorem ident_name (u : StandardUniform) : ∀ c ∈ u.name.toList, isIdentChar c = true :=
  List.all_eq_true.1 (by cases u <;> decide)

theorem name_ne_nil (u : StandardUniform) : u.name.toList ≠ [] := by
  cases u <;> decide

theorem hasWord_trimStart_of_codePart {line word : List Char}
    (ident : ∀ c ∈ word, isIdentChar c = true) (nonempty : word ≠ [])
    (h : hasWord (codePart line) word = true) : hasWord (trimStart line) word = true := by
  rw [hasWord_iff_standing ident nonempty] at h ⊢
  obtain ⟨comment, whole, slash⟩ := exists_comment line
  have inLine : Standing (codePart line ++ comment) word := h.append (beginsApart_of_slash slash)
  rw [whole] at inLine
  exact inLine.trimStart ident nonempty

theorem of_eq_standardUniform {u : StandardUniform} {line : List Char}
    (word : firstWord (trimStart line) = "uniform".toList)
    (names : hasWord (codePart line) u.name.toList = true) :
    LineKind.of line = .standardUniform := by
  have known : LineKind.namesStandardUniform (trimStart line) = true :=
    List.any_eq_true.2
      ⟨u, u.mem_all, hasWord_trimStart_of_codePart (ident_name u) (name_ne_nil u) names⟩
  have uniform : "uniform".toList ≠ "precision".toList := by decide
  rw [LineKind.of_statement (by rw [word]; decide), LineKind.ofStatement, word, if_neg uniform,
    if_pos rfl, if_pos known]

theorem of_eq_body {line : List Char} (layout : isLayoutUniform line = true) :
    LineKind.of line = .body := by
  have word : firstWord (trimStart line) = "layout".toList := (of_decide_eq_true layout).1
  rw [LineKind.of_statement (by rw [word]; decide), LineKind.ofStatement, word]
  rfl

/-- Of the lines that are kept, those that declare a standard uniform begin with a layout. -/
theorem declares_kept {u : StandardUniform} {line : List Char}
    (kind : LineKind.of line ∈ [LineKind.opener, .closer, .body]) :
    declares u line = (isLayoutUniform line && declares u line) := by
  cases declared : declares u line with
  | false => rw [Bool.and_false]
  | true =>
    obtain ⟨uniform | layout, names⟩ := of_decide_eq_true declared
    · rw [of_eq_standardUniform uniform names] at kind
      exact absurd kind (by decide)
    · rw [layout, Bool.and_true]

/-! ### Declarations in the lines that are taken over -/

theorem countP_keptLines {p : List Char → Bool}
    (body : ∀ line, p line = true → LineKind.of line = .body) (nesting : List Bool)
    (ls : List (List Char)) : (keptLines nesting ls).countP p = ls.countP p := by
  induction ls generalizing nesting with
  | nil => rfl
  | cons line rest ih =>
    -- only lines of no concern count, and all of them are kept
    have other (kind : LineKind.of line ≠ .body) : p line = false :=
      Bool.eq_false_iff.2 (mt (body line) kind)
    rw [keptLines, List.countP_cons]
    cases kind : LineKind.of line with
    | body => simp only [List.countP_cons, ih]
    | opener => simp [ih, other (by simp [kind])]
    | closer =>
      dsimp only
      split <;> simp [ih, other (by simp [kind])]
    | version | precision | standardUniform | guard => simp [ih, other (by simp [kind])]

theorem Blind.isInfix {word : List Char} (ident : ∀ c ∈ word, isIdentChar c = true)
    (nonempty : word ≠ []) (inOld : Clear legacyOutput word) (ofOld : Clear word legacyOutput)
    (inNew : Clear defaultOutput word) (ofNew : Clear word defaultOutput) :
    Blind fun s => word <:+: s where
  renamed h := propext (h.isInfix_iff inOld ofOld inNew ofNew)
  blank {c} s blank := by
    have lacks : c ∉ word := by
      intro mem
      rw [isBlank_of_isIdentChar (ident c mem)] at blank
      cases blank
    rw [isInfix_append_cons_iff lacks, List.infix_nil]
    simp [nonempty]

theorem blind_isLayoutUniform : Blind isLayoutUniform := by
  have word : Blind fun s => firstWord (trimStart s) = "layout".toList :=
    (Blind.firstWord "layout".toList (by decide)).trimStart
  have occurs : Blind fun s => "uniform".toList <:+: s :=
    .isInfix (List.all_eq_true.1 (by decide)) (by decide) (by decide) (by decide) (by decide)
      (by decide)
  constructor
  · intro s t h
    simp only [isLayoutUniform, word.renamed h, occurs.renamed h]
  · intro c s blank
    simp only [isLayoutUniform, word.blank s blank, occurs.blank s blank]

theorem blind_declares (u : StandardUniform) : Blind (declares u) := by
  have word : Blind fun s => firstWord (trimStart s) = "uniform".toList :=
    (Blind.firstWord "uniform".toList (by decide)).trimStart
  have names : Blind fun s => hasWord (codePart s) u.name.toList :=
    (Blind.hasWord (by cases u <;> decide) (ident_name u) (name_ne_nil u)).codePart
  constructor
  · intro s t h
    simp only [declares, word.renamed h, blind_isLayoutUniform.renamed h, names.renamed h]
  · intro c s blank
    simp only [declares, word.blank s blank, blind_isLayoutUniform.blank s blank,
      names.blank s blank]

theorem countP_declares_body (source : List Char) (u : StandardUniform) :
    (lines (canonicalize source).body).countP (declares u) =
      (lines source).countP fun line => isLayoutUniform line && declares u line := by
  have kept : (keptLines [] (lines source)).countP (declares u) =
      (keptLines [] (lines source)).countP fun line => isLayoutUniform line && declares u line := by
    refine List.countP_congr fun line mem => ?_
    rw [← declares_kept (of_mem_keptLines mem).2]
  have body (line : List Char) (h : (isLayoutUniform line && declares u line) = true) :
      LineKind.of line = .body := of_eq_body (Bool.and_eq_true_iff.1 h).1
  have tidied : declares u ∘ tidy = declares u := funext (blind_declares u).tidy
  rw [lines_body, List.countP_map, tidied, kept, countP_keptLines body]

/-! ### Declarations in the lines that are added -/

theorem declares_declaration (u v : StandardUniform) :
    declares u v.declaration.toList = decide (u = v) := by
  have all : ∀ v ∈ StandardUniform.all, ∀ u ∈ StandardUniform.all,
      declares u v.declaration.toList = decide (u = v) := by decide +kernel
  exact all v v.mem_all u u.mem_all

theorem declares_versionLine (u : StandardUniform) :
    declares u Canonical.versionLine = false := by
  cases u <;> decide

theorem declares_assignment {output : List Char} (ident : ∀ c ∈ output, isIdentChar c = true)
    (u : StandardUniform) : declares u (Canonical.assignment output) = false := by
  -- only these two words could begin a declaration, and the line names no standard uniform then
  by_cases uniform : output = "uniform".toList
  · rw [uniform]
    cases u <;> decide
  · by_cases layout : output = "layout".toList
    · rw [layout]
      cases u <;> decide
    · refine decide_eq_false ?_
      rw [Canonical.firstWord_assignment ident]
      rintro ⟨first | first, -⟩
      · exact uniform first
      · have word := (of_decide_eq_true first).1
        rw [Canonical.firstWord_assignment ident] at word
        exact layout word

theorem countP_openingLines (p : Canonical) (u : StandardUniform) :
    p.openingLines.countP (declares u) = 1 := by
  have uniforms : (StandardUniform.all.map (·.declaration.toList)).countP (declares u) = 1 := by
    have same : declares u ∘ (·.declaration.toList) = fun v => decide (u = v) := by
      funext v
      rw [Function.comp_apply, declares_declaration]
    rw [List.countP_map, same]
    cases u <;> decide
  have blank : declares u [] = false := by cases u <;> decide
  have output : declares u "layout(location = 0) out vec4 fragColor;".toList = false := by
    cases u <;> decide
  rw [Canonical.openingLines, List.countP_append, List.countP_append, List.countP_cons, uniforms]
  cases p.addsOutput <;>
    simp only [List.countP_cons, List.countP_nil, blank, output, if_true, Bool.false_eq_true,
      if_false]

theorem declares_callingLines {output : List Char} (ident : ∀ c ∈ output, isIdentChar c = true)
    (u : StandardUniform) : ∀ line ∈ Canonical.callingLines output, declares u line = false := by
  refine Canonical.forall_callingLines ?_ (declares_assignment ident u)
  cases u <;> decide

theorem countP_entryLines (source : List Char) (u : StandardUniform) :
    (canonicalize source).entryLines.countP (declares u) = 0 := by
  have none : ∀ line ∈ (canonicalize source).entryLines, declares u line = false :=
    Canonical.forall_entryLines (declares_callingLines (outputName_ident source) u)
  rw [List.countP_eq_zero]
  intro line mem
  rw [none line mem]
  exact Bool.false_ne_true

theorem countP_declares_lines_text (source : List Char) (u : StandardUniform) :
    (lines (canonicalize source).text).countP (declares u) =
      1 + (lines (canonicalize source).body).countP (declares u) := by
  rw [lines_text, List.countP_cons, declares_versionLine, List.countP_append, List.countP_append,
    countP_openingLines, countP_entryLines]
  rfl

/-- A program declares each standard uniform once, and once more for every line of the source that
begins with a layout and declares the uniform behind it. -/
theorem countP_declares_text (source : List Char) (u : StandardUniform) :
    (lines (canonicalize source).text).countP (declares u) =
      1 + (lines source).countP fun line => isLayoutUniform line && declares u line := by
  rw [countP_declares_lines_text, countP_declares_body]

/-- A uniform that the source declares behind a layout is declared twice. -/
theorem countP_declares_layout :
    let source := ("layout(set = 0, binding = 0) uniform Clock \x7b float u_time; \x7d;\n" ++
      "void main() \x7b gl_FragColor = vec4(u_time); \x7d\n").toList
    (lines (canonicalize source).text).countP (declares .time) = 2 := by
  intro source
  rw [countP_declares_lines_text]
  decide +kernel

end ShaderFilm.Shader
