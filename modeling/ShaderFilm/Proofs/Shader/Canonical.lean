import Mathlib.Tactic.SplitIfs
import ShaderFilm.Proofs.Shader.Line

/-!
# The lines of the canonical program

The program consists of fixed lines and of those that it takes over from the source, which are the
kept ones, tidied (`lines_body`, `lines_text`).  None of them is a line that the program states
itself: the one version directive is the first line (`lines_text_kinds`).
-/

namespace ShaderFilm.Shader

open ShaderFilm.Text

/-! ### Lines that are taken over -/

/-- Every kept line is one of the source, and opens or closes a conditional or is of no concern. -/
theorem of_mem_keptLines {nesting : List Bool} {ls : List (List Char)} {line : List Char}
    (h : line ∈ keptLines nesting ls) :
    line ∈ ls ∧ LineKind.of line ∈ [LineKind.opener, .closer, .body] := by
  induction ls generalizing nesting with
  | nil => simp [keptLines] at h
  | cons first rest ih =>
    have later {nesting : List Bool} (mem : line ∈ keptLines nesting rest) :
        line ∈ first :: rest ∧ LineKind.of line ∈ [LineKind.opener, .closer, .body] :=
      ⟨List.mem_cons_of_mem first (ih mem).1, (ih mem).2⟩
    have here {nesting : List Bool} (kind : LineKind.of first ∈ [LineKind.opener, .closer, .body])
        (mem : line ∈ first :: keptLines nesting rest) :
        line ∈ first :: rest ∧ LineKind.of line ∈ [LineKind.opener, .closer, .body] := by
      rcases List.mem_cons.1 mem with rfl | mem
      · exact ⟨List.mem_cons_self, kind⟩
      · exact later mem
    rw [keptLines] at h
    cases kind : LineKind.of first <;> simp only [kind] at h
    case closer =>
      split at h
      · exact later h
      · exact here (by simp [kind]) h
    case opener => exact here (by simp [kind]) h
    case body => exact here (by simp [kind]) h
    all_goals exact later h

theorem newline_not_mem_renameOutput {line : List Char} (h : '\n' ∉ line) :
    '\n' ∉ renameOutput line :=
  (renamed_replaceAll outputNames.old_ne_nil defaultOutput line).not_mem (by decide) h

theorem newline_not_mem_kept (source : List Char) :
    ∀ line ∈ (keptLines [] (lines source)).map renameOutput, '\n' ∉ line := by
  intro line mem
  obtain ⟨kept, inKept, rfl⟩ := List.mem_map.1 mem
  exact newline_not_mem_renameOutput (newline_not_mem_lines kept (of_mem_keptLines inKept).1)

/-- The lines of the body are the kept lines of the source. -/
theorem lines_body (source : List Char) :
    lines (canonicalize source).body = (keptLines [] (lines source)).map tidy := by
  have cut := lines_unlines (newline_not_mem_kept source)
  rw [List.map_map] at cut
  exact cut

/-! ### Lines that are added -/

/-- Whether a character neither breaks a line nor begins a directive. -/
def isPlain (c : Char) : Bool := c ∉ ['\n', '\r', '#']

theorem isPlain_of_isIdentChar {c : Char} (ident : isIdentChar c = true) : isPlain c = true := by
  have others : ['\n', '\r', '#'].all (!isIdentChar ·) = true := by decide
  refine decide_eq_true fun mem => ?_
  have other := List.all_eq_true.1 others c mem
  rw [ident] at other
  cases other

theorem not_mem_of_all {p : Char → Bool} {line : List Char} {c : Char} (all : line.all p = true)
    (other : p c = false) : c ∉ line := by
  intro mem
  rw [List.all_eq_true.1 all c mem] at other
  cases other

namespace Canonical

/-- The directive that every program begins with. -/
def versionLine : List Char := "#version 450".toList

/-- The lines between the version directive and the body: the standard uniforms, and an output where
the body declares none. -/
def openingLines (p : Canonical) : List (List Char) :=
  [] :: StandardUniform.all.map (·.declaration.toList) ++
    (if p.addsOutput then ["layout(location = 0) out vec4 fragColor;".toList] else []) ++ [[]]

/-- The line of an entry point that writes the colour to the output. -/
def assignment (output : List Char) : List Char :=
  "    ".toList ++ output ++ " = shadereel_color;".toList

/-- The lines of an entry point that calls `mainImage`. -/
def callingLines (output : List Char) : List (List Char) :=
  [[], "void main() \x7b".toList, "    vec4 shadereel_color = vec4(0.0, 0.0, 0.0, 1.0);".toList,
    "    mainImage(shadereel_color, gl_FragCoord.xy);".toList, assignment output, "\x7d".toList]

/-- The lines of the entry point, if one is added. -/
def entryLines (p : Canonical) : List (List Char) :=
  if p.addsEntry then callingLines p.outputName else []

/-- What holds of the blank lines, of the declarations of the standard uniforms and of the default
output holds of all lines before the body. -/
theorem forall_openingLines {motive : List Char → Prop} (blank : motive [])
    (uniform : ∀ u : StandardUniform, motive u.declaration.toList)
    (output : motive "layout(location = 0) out vec4 fragColor;".toList) (p : Canonical) :
    ∀ line ∈ p.openingLines, motive line := by
  intro line mem
  rcases List.mem_append.1 mem with mem | mem
  · rcases List.mem_append.1 mem with mem | mem
    · rcases List.mem_cons.1 mem with rfl | mem
      · exact blank
      · obtain ⟨u, -, rfl⟩ := List.mem_map.1 mem
        exact uniform u
    · split at mem
      · rw [List.mem_singleton.1 mem]
        exact output
      · cases mem
  · rw [List.mem_singleton.1 mem]
    exact blank

theorem forall_callingLines {motive : List Char → Prop} {output : List Char}
    (fixed : ∀ line ∈ [[], "void main() \x7b".toList,
      "    vec4 shadereel_color = vec4(0.0, 0.0, 0.0, 1.0);".toList,
      "    mainImage(shadereel_color, gl_FragCoord.xy);".toList, "\x7d".toList], motive line)
    (assign : motive (assignment output)) : ∀ line ∈ callingLines output, motive line := by
  simpa [callingLines, assign] using fixed

theorem forall_entryLines {motive : List Char → Prop} {p : Canonical}
    (h : ∀ line ∈ callingLines p.outputName, motive line) : ∀ line ∈ p.entryLines, motive line := by
  unfold entryLines
  split
  · exact h
  · simp

end Canonical

/-- All that a line with an output goes through. -/
theorem outputName?_eq_some {line name : List Char} (h : outputName? line = some name) :
    ∃ rest statement after, skipLayout (trim (codePart line)) = some rest ∧
      firstWord rest = "out".toList ∧ cutAt [';'] (rest.drop 3) = some (statement, after) ∧
      (statement.any fun c => "(),\x7b=".toList.contains c) = false ∧
      (words statement).getLast? = some name ∧ ∀ c ∈ name, isIdentChar c = true := by
  unfold outputName? at h
  obtain ⟨rest, skipped, h⟩ := Option.bind_eq_some_iff.1 h
  split at h
  · cases h
  next out =>
  obtain ⟨⟨statement, after⟩, cut, h⟩ := Option.bind_eq_some_iff.1 h
  dsimp only at h
  split at h
  · cases h
  next plain =>
  obtain ⟨last, found, h⟩ := Option.bind_eq_some_iff.1 h
  split at h
  · next ident =>
    rw [← Option.some.inj h]
    exact ⟨rest, statement, after, skipped, Decidable.not_not.1 out, cut,
      Bool.eq_false_iff.2 plain, found, List.all_eq_true.1 ident⟩
  · cases h

theorem outputName?_ident {line name : List Char} (h : outputName? line = some name) :
    ∀ c ∈ name, isIdentChar c = true := by
  obtain ⟨-, -, -, -, -, -, -, -, ident⟩ := outputName?_eq_some h
  exact ident

theorem Canonical.firstWord_assignment {output : List Char}
    (ident : ∀ c ∈ output, isIdentChar c = true) :
    firstWord (trimStart (assignment output)) = output := by
  have split : assignment output = "    ".toList ++ (output ++ " = shadereel_color;".toList) :=
    List.append_assoc _ output _
  have word : firstWord (output ++ " = shadereel_color;".toList) = output := by
    rw [firstWord, List.takeWhile_append_of_pos ident]
    exact List.append_nil output
  rw [split, trimStart, List.dropWhile_append_of_pos (List.all_eq_true.1 (by decide))]
  cases output with
  | nil => decide
  | cons c output =>
    have solid : isBlank c = false := isBlank_of_isIdentChar (ident c List.mem_cons_self)
    rw [List.cons_append, List.dropWhile_cons_of_neg (by simp [solid]), ← List.cons_append]
    exact word

theorem outputName_ident (source : List Char) :
    ∀ c ∈ (canonicalize source).outputName, isIdentChar c = true := by
  rw [Canonical.outputName]
  cases found : (canonicalize source).declared with
  | none => exact outputNames.new_ident
  | some name =>
    obtain ⟨line, -, declares⟩ := List.exists_of_findSome?_eq_some found
    exact outputName?_ident declares

theorem Canonical.text_eq_unlines (p : Canonical) :
    p.text = unlines (versionLine :: p.openingLines) ++ (p.body ++ unlines p.entryLines) := by
  have front : unlines (versionLine :: p.openingLines) =
      header ++ (if p.addsOutput then outputDeclaration else []) ++ ['\n'] := by
    have split : versionLine :: p.openingLines =
        (versionLine :: [] :: StandardUniform.all.map (·.declaration.toList)) ++
          (if p.addsOutput then ["layout(location = 0) out vec4 fragColor;".toList] else []) ++
          [[]] := rfl
    rw [split, unlines_append, unlines_append]
    cases p.addsOutput <;> rfl
  have back : (if p.addsEntry then Canonical.entry p.outputName else []) =
      unlines p.entryLines := by
    unfold entryLines
    split <;> rfl
  rw [text, front, back]
  simp only [List.append_assoc, List.cons_append, List.nil_append]

theorem plain_declaration (u : StandardUniform) : u.declaration.toList.all isPlain = true := by
  delta StandardUniform.declaration
  simp only [String.toList_append, List.all_append]
  cases u <;> decide

theorem plain_openingLines (p : Canonical) : ∀ line ∈ p.openingLines, line.all isPlain = true := by
  refine Canonical.forall_openingLines ?_ ?_ ?_ p
  · rfl
  · exact plain_declaration
  · decide

theorem plain_callingLines {output : List Char} (ident : ∀ c ∈ output, isIdentChar c = true) :
    ∀ line ∈ Canonical.callingLines output, line.all isPlain = true := by
  refine Canonical.forall_callingLines (by decide) ?_
  have name : output.all isPlain = true :=
    List.all_eq_true.2 fun c mem => isPlain_of_isIdentChar (ident c mem)
  rw [Canonical.assignment, List.all_append, List.all_append, name]
  decide

theorem plain_entryLines (source : List Char) :
    ∀ line ∈ (canonicalize source).entryLines, line.all isPlain = true :=
  Canonical.forall_entryLines (plain_callingLines (outputName_ident source))

theorem unbroken_of_plain {ls : List (List Char)} (plain : ∀ line ∈ ls, line.all isPlain = true) :
    ∀ line ∈ ls, '\n' ∉ line ∧ '\r' ∉ line := by
  intro line mem
  exact ⟨not_mem_of_all (plain line mem) (by decide), not_mem_of_all (plain line mem) (by decide)⟩

theorem unbroken_versionLine : '\n' ∉ Canonical.versionLine ∧ '\r' ∉ Canonical.versionLine := by
  decide

theorem Canonical.lines_header :
    lines header = versionLine :: [] :: StandardUniform.all.map (·.declaration.toList) := by
  refine lines_unlines_of_plain fun line mem => ?_
  rcases List.mem_cons.1 mem with rfl | mem
  · exact unbroken_versionLine
  · refine unbroken_of_plain (fun line mem => ?_) line mem
    rcases List.mem_cons.1 mem with rfl | mem
    · rfl
    · obtain ⟨u, -, rfl⟩ := List.mem_map.1 mem
      exact plain_declaration u

theorem Canonical.lines_entry {output : List Char} (ident : ∀ c ∈ output, isIdentChar c = true) :
    lines (entry output) = callingLines output :=
  lines_unlines_of_plain (unbroken_of_plain (plain_callingLines ident))

/-- The program: the version directive, the other lines of the header, the body, and the entry point
where one is missing. -/
theorem lines_text (source : List Char) :
    let p := canonicalize source
    lines p.text =
      Canonical.versionLine :: (p.openingLines ++ lines p.body ++ p.entryLines) := by
  intro p
  have front : ∀ line ∈ Canonical.versionLine :: p.openingLines, '\n' ∉ line ∧ '\r' ∉ line := by
    intro line mem
    rcases List.mem_cons.1 mem with rfl | mem
    · exact unbroken_versionLine
    · exact unbroken_of_plain (plain_openingLines p) line mem
  have last : lines (unlines p.entryLines) = p.entryLines :=
    lines_unlines_of_plain (unbroken_of_plain (plain_entryLines source))
  have body : lines (p.body ++ unlines p.entryLines) = lines p.body ++ p.entryLines := by
    show lines (unlines _ ++ _) = lines (unlines _) ++ _
    rw [lines_unlines_append (newline_not_mem_kept source),
      lines_unlines (newline_not_mem_kept source), last]
  rw [Canonical.text_eq_unlines, lines_unlines_append_of_plain front, body, List.cons_append,
    List.append_assoc]

/-- The added lines beside the version directive are no directives. -/
theorem hash_not_mem_added (source : List Char) :
    ∀ line ∈ (canonicalize source).openingLines ++ (canonicalize source).entryLines,
      '#' ∉ line := by
  intro line mem
  rcases List.mem_append.1 mem with opening | entry
  · exact not_mem_of_all (plain_openingLines _ line opening) (by decide)
  · exact not_mem_of_all (plain_entryLines source line entry) (by decide)

/-! ### Kinds of lines of the program -/

theorem trimStart_ne_hash {line : List Char} (h : '#' ∉ line) (rest : List Char) :
    trimStart line ≠ '#' :: rest := by
  intro hash
  apply h
  have sub : trimStart line ⊆ line := (List.dropWhile_sublist isBlank).subset
  rw [hash] at sub
  exact sub List.mem_cons_self

theorem LineKind.of_ne_version {line : List Char} (h : '#' ∉ line) : of line ≠ .version := by
  unfold of
  split
  · next hash => exact absurd hash (trimStart_ne_hash h _)
  · unfold ofStatement
    dsimp only
    split_ifs <;> decide

/-- The first line of a program is its only version directive.  The lines that were taken over from
the source are none of those that the program states itself: no version directive, no precision, no
guard of an embedded profile and no standard uniform. -/
theorem lines_text_kinds (source : List Char) :
    ∃ front back,
      lines (canonicalize source).text =
          "#version 450".toList :: (front ++ lines (canonicalize source).body ++ back) ∧
        LineKind.of "#version 450".toList = .version ∧
        (∀ line ∈ front ++ lines (canonicalize source).body ++ back,
          LineKind.of line ≠ .version) ∧
        ∀ line ∈ lines (canonicalize source).body,
          LineKind.of line ∉ [LineKind.version, .precision, .guard, .standardUniform] := by
  have taken : ∀ line ∈ lines (canonicalize source).body,
      LineKind.of line ∉ [LineKind.version, .precision, .guard, .standardUniform] := by
    intro line mem
    rw [lines_body] at mem
    obtain ⟨kept, inKept, rfl⟩ := List.mem_map.1 mem
    have kind := (of_mem_keptLines inKept).2
    rw [LineKind.blind_of.tidy]
    revert kind
    cases LineKind.of kept <;> decide
  refine ⟨(canonicalize source).openingLines, (canonicalize source).entryLines, lines_text source,
    by decide, ?_, taken⟩
  intro line mem
  rcases List.mem_append.1 mem with mem | entry
  · rcases List.mem_append.1 mem with opening | body
    · exact LineKind.of_ne_version
        (hash_not_mem_added source line (List.mem_append_left _ opening))
    · intro kind
      exact taken line body (by rw [kind]; decide)
  · exact LineKind.of_ne_version (hash_not_mem_added source line (List.mem_append_right _ entry))

end ShaderFilm.Shader
