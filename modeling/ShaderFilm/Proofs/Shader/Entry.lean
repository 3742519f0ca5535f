import ShaderFilm.Proofs.Shader.Output

/-!
# The entry point of the canonical program

A line defines a function only where it holds the name of the function, the word `void` and an
opening parenthesis (`parts_of_lineDefines`).  Hence none of the lines that are added to a body
defines `mainImage`, and just the head of an added entry point defines `main`: a program with
`mainImage` has an entry point, and none gets a second one (`entryPoint_text`).
-/

namespace ShaderFilm.Shader

open ShaderFilm.Text

/-! ### Definitions of functions -/

theorem parts_of_definesFrom {code name : List Char} {offset : Nat}
    (h : definesFrom code name offset = true) :
    name <:+: code ∧ "void".toList <:+: code ∧ '(' ∈ code := by
  fun_induction definesFrom code name offset with
  | case1 => cases h
  | case2 offset _ found place start stop shape =>
    obtain ⟨opens, void⟩ := shape
    have here : name <:+: code :=
      (isInfix_of_findWord place).trans (List.drop_suffix offset code).isInfix
    have front : trimEnd (code.take start) <:+: code :=
      ((trimEnd_isPrefix _).trans (List.take_prefix start code)).isInfix
    have back : trimStart (code.drop stop) <:+ code :=
      (trimStart_isSuffix _).trans (List.drop_suffix stop code)
    exact ⟨here, (List.isSuffixOf_iff_suffix.1 void).isInfix.trans front,
      back.subset (List.mem_of_head? opens)⟩
  | case3 _ _ _ _ _ _ _ _ ih => exact ih h
  | case4 => cases h
  | case5 => cases h

theorem parts_of_lineDefines {name line : List Char} (h : lineDefines name line = true) :
    name <:+: line ∧ "void".toList <:+: line ∧ '(' ∈ line := by
  obtain ⟨here, void, opens⟩ := parts_of_definesFrom h
  have code : codePart line <:+: line := (codePart_isPrefix line).isInfix
  exact ⟨here.trans code, void.trans code, code.subset opens⟩

theorem lineDefines_of_no_void {line : List Char} (lacks : ¬ "void".toList <:+: line)
    (name : List Char) : lineDefines name line = false :=
  Bool.eq_false_iff.2 fun defines => lacks (parts_of_lineDefines defines).2.1

/-! ### Definitions in the lines that are added -/

theorem lineDefines_versionLine (name : List Char) :
    lineDefines name Canonical.versionLine = false :=
  lineDefines_of_no_void (by decide) name

theorem lineDefines_openingLines (p : Canonical) (name : List Char) :
    ∀ line ∈ p.openingLines, lineDefines name line = false := by
  refine Canonical.forall_openingLines ?_ ?_ ?_ p
  · exact lineDefines_of_no_void (by decide) name
  · intro u
    refine lineDefines_of_no_void ?_ name
    cases u <;> decide +kernel
  · exact lineDefines_of_no_void (by decide) name

theorem lineDefines_assignment {output : List Char} (ident : ∀ c ∈ output, isIdentChar c = true)
    (name : List Char) : lineDefines name (Canonical.assignment output) = false := by
  refine Bool.eq_false_iff.2 fun defines => ?_
  have opens := (parts_of_lineDefines defines).2.2
  rw [Canonical.assignment, List.mem_append, List.mem_append] at opens
  rcases opens with (indent | inOutput) | rest
  · revert indent
    decide
  · -- no identifier has a parenthesis in it
    have paren := ident '(' inOutput
    revert paren
    decide
  · revert rest
    decide

/-- The line that an entry point begins with. -/
def entryHead : List Char := "void main() \x7b".toList

theorem lineDefines_entryHead :
    lineDefines "main".toList entryHead = true ∧ lineDefines "mainImage".toList entryHead = false := by
  constructor
  · rw [lineDefines, definesFrom]
    decide +kernel
  · refine Bool.eq_false_iff.2 fun defines => ?_
    have here := (parts_of_lineDefines defines).1
    revert here
    decide

theorem countP_callingLines {output : List Char} (ident : ∀ c ∈ output, isIdentChar c = true)
    (name : List Char) : (Canonical.callingLines output).countP (lineDefines name) =
      if lineDefines name entryHead then 1 else 0 := by
  have blank : lineDefines name [] = false := lineDefines_of_no_void (by decide) name
  have color : lineDefines name
      "    vec4 shadereel_color = vec4(0.0, 0.0, 0.0, 1.0);".toList = false :=
    lineDefines_of_no_void (by decide) name
  have call : lineDefines name "    mainImage(shadereel_color, gl_FragCoord.xy);".toList = false :=
    lineDefines_of_no_void (by decide) name
  have closing : lineDefines name "\x7d".toList = false := lineDefines_of_no_void (by decide) name
  have assign := lineDefines_assignment ident name
  show List.countP (lineDefines name) [[], entryHead, _, _, Canonical.assignment output, _] = _
  simp only [List.countP_cons, List.countP_nil, blank, color, call, closing, assign]
  simp

/-- The definitions of a program are those of its body and that of the entry point that is added. -/
theorem countP_lines_text (source name : List Char) :
    (lines (canonicalize source).text).countP (lineDefines name) =
      (lines (canonicalize source).body).countP (lineDefines name) +
        if (canonicalize source).addsEntry && lineDefines name entryHead then 1 else 0 := by
  have opening : (canonicalize source).openingLines.countP (lineDefines name) = 0 := by
    rw [List.countP_eq_zero]
    intro line mem
    rw [lineDefines_openingLines _ name line mem]
    decide
  have entry : (canonicalize source).entryLines.countP (lineDefines name) =
      if (canonicalize source).addsEntry && lineDefines name entryHead then 1 else 0 := by
    rw [Canonical.entryLines]
    cases (canonicalize source).addsEntry with
    | true => exact countP_callingLines (outputName_ident source) name
    | false => rfl
  rw [lines_text, List.countP_cons, lineDefines_versionLine, List.countP_append,
    List.countP_append, opening, entry, Nat.zero_add]
  rfl

theorem defines_iff_countP (text name : List Char) :
    defines text name = true ↔ 0 < (lines text).countP (lineDefines name) := by
  rw [defines, List.any_eq_true, List.countP_pos_iff]

theorem addsEntry_iff (source : List Char) :
    (canonicalize source).addsEntry = true ↔
      defines (canonicalize source).body "mainImage".toList = true ∧
        defines (canonicalize source).body "main".toList = false := by
  show (defines (bodyOf source) _ && !defines (bodyOf source) _) = true ↔ _
  rw [Bool.and_eq_true, Bool.not_eq_true']
  rfl

theorem countP_mainImage_text (source : List Char) :
    (lines (canonicalize source).text).countP (lineDefines "mainImage".toList) =
      (lines (canonicalize source).body).countP (lineDefines "mainImage".toList) := by
  rw [countP_lines_text, lineDefines_entryHead.2, Bool.and_false]
  rfl

/-- There is an entry point of the body, or else one is added if there is something to call. -/
theorem countP_main_text (source : List Char) :
    (lines (canonicalize source).text).countP (lineDefines "main".toList) =
      if defines (canonicalize source).body "main".toList then
        (lines (canonicalize source).body).countP (lineDefines "main".toList)
      else if defines (canonicalize source).body "mainImage".toList then 1 else 0 := by
  have added := addsEntry_iff source
  rw [countP_lines_text, lineDefines_entryHead.1, Bool.and_true]
  cases main : defines (canonicalize source).body "main".toList with
  | true =>
    -- nothing is added, for the body has an entry point
    rw [if_neg fun adds => Bool.noConfusion (main.symm.trans (added.1 adds).2)]
    rfl
  | false =>
    have none : (lines (canonicalize source).body).countP (lineDefines "main".toList) = 0 := by
      rw [← Nat.le_zero, ← Nat.not_lt, ← defines_iff_countP, main]
      exact Bool.false_ne_true
    rw [none, Nat.zero_add, if_neg Bool.false_ne_true]
    simp only [added, main, and_true]

/-- An entry point is added just if the body defines `mainImage` but not `main`.  A program that
defines `mainImage` defines `main`; it does so as often as its body does, or once if only
`mainImage` is there.  An entry point that is added ends with an assignment to an output that the
program declares. -/
theorem entryPoint_text (source : List Char) :
    ((canonicalize source).addsEntry = true ↔
        (∃ line ∈ lines (canonicalize source).body, lineDefines "mainImage".toList line = true) ∧
          ∀ line ∈ lines (canonicalize source).body, lineDefines "main".toList line = false) ∧
      ((∃ line ∈ lines (canonicalize source).text, lineDefines "mainImage".toList line = true) →
        ∃ line ∈ lines (canonicalize source).text, lineDefines "main".toList line = true) ∧
      (lines (canonicalize source).text).countP (lineDefines "main".toList) =
        (if 0 < (lines (canonicalize source).body).countP (lineDefines "main".toList) then
          (lines (canonicalize source).body).countP (lineDefines "main".toList)
        else if ∃ line ∈ lines (canonicalize source).text,
            lineDefines "mainImage".toList line = true then 1
        else 0) ∧
      ((canonicalize source).addsEntry = true →
        ["    ".toList ++ (canonicalize source).outputName ++ " = shadereel_color;".toList,
            "\x7d".toList] <:+ lines (canonicalize source).text ∧
          ∃ line ∈ lines (canonicalize source).text,
            outputName? line = some (canonicalize source).outputName) := by
  have called : (∃ line ∈ lines (canonicalize source).text,
      lineDefines "mainImage".toList line = true) ↔
        defines (canonicalize source).body "mainImage".toList = true := by
    rw [defines_iff_countP, ← countP_mainImage_text, List.countP_pos_iff]
  have count : (lines (canonicalize source).text).countP (lineDefines "main".toList) =
      if 0 < (lines (canonicalize source).body).countP (lineDefines "main".toList) then
        (lines (canonicalize source).body).countP (lineDefines "main".toList)
      else if ∃ line ∈ lines (canonicalize source).text,
          lineDefines "mainImage".toList line = true then 1
      else 0 := by
    simp only [called, ← defines_iff_countP]
    exact countP_main_text source
  refine ⟨?_, fun calls => ?_, count, fun adds => ⟨Canonical.assignment_isSuffix adds, ?_⟩⟩
  · rw [addsEntry_iff, defines, defines, List.any_eq_true, List.any_eq_false]
    simp only [Bool.not_eq_true]
  · rw [← List.countP_pos_iff, count, if_pos calls]
    split
    · assumption
    · exact Nat.one_pos
  · exact List.mem_filterMap.1 (List.mem_of_head? (head?_declaredOutputs source))

/-- A source with nothing but `mainImage` gets an entry point. -/
example :
    let program := canonicalize "void mainImage(out vec4 c, in vec2 p) { c = vec4(1.0); }".toList
    program.addsEntry = true ∧ "void main() \x7b".toList ∈ lines program.text ∧
      (lines program.text).countP (lineDefines "main".toList) = 1 := by
  decide +kernel

end ShaderFilm.Shader
