import ShaderFilm.Proofs.Shader.Output
import ShaderFilm.Proofs.Text.Identifier

/-!
# Identifiers of the canonical program

The legacy output is renamed in every identifier on its own (`identifiers_tidy`), so that different
identifiers stay different unless one has the legacy output in the place of the default one.  An
entry point that is added has one variable, and writes an output of another name unless the source
itself declares one of that name (`identifiers_text`).
-/

namespace ShaderFilm.Shader

open ShaderFilm.Text

/-- The identifiers on the lines that are kept. -/
def keptIdentifiers (source : List Char) : List (List Char) :=
  (keptLines [] (lines source)).flatMap identifiers

/-- The variable of an entry point that is added. -/
def entryColor : List Char := "shadereel_color".toList

/-- An entry point with the given variable that writes the given output. -/
def entryWith (color output : List Char) : List (List Char) :=
  ["void main() \x7b".toList, "    vec4 ".toList ++ color ++ " = vec4(0.0, 0.0, 0.0, 1.0);".toList,
    "    mainImage(".toList ++ color ++ ", gl_FragCoord.xy);".toList,
    "    ".toList ++ output ++ " = ".toList ++ color ++ ";".toList, "\x7d".toList]

/-- Different identifiers stay different, and no output is hidden by the variable of an entry point
that is added. -/
def KeepsNamesApart (source : List Char) : Prop :=
  (∀ v ∈ keptIdentifiers source, ∀ w ∈ keptIdentifiers source,
      v ≠ w → renameOutput v ≠ renameOutput w) ∧
    ((canonicalize source).addsEntry = true → (canonicalize source).outputName ≠ entryColor)

/-! ### Identifiers of the body -/

theorem identifiers_dropReturn (line : List Char) :
    identifiers (dropReturn line) = identifiers line := by
  refine apply_dropReturn (fun s => ?_) line
  have free : isIdentChar '\r' = false := by decide
  have none : identifiers [] = [] := by decide
  rw [identifiers_append_cons free, none, List.append_nil]

theorem identifiers_tidy (line : List Char) :
    identifiers (tidy line) = (identifiers line).map renameOutput := by
  rw [tidy, identifiers_dropReturn]
  exact identifiers_replaceAll outputNames line

theorem flatMap_identifiers_body (source : List Char) :
    (lines (canonicalize source).body).flatMap identifiers =
      (keptIdentifiers source).map renameOutput := by
  have tidied : identifiers ∘ tidy = List.map renameOutput ∘ identifiers :=
    funext identifiers_tidy
  rw [lines_body, List.flatMap_map, keptIdentifiers, List.map_flatMap]
  exact congrArg (fun f => List.flatMap f _) tidied

/-- Different names become the same just if one of them has the legacy output where the other has
the default one. -/
theorem renameOutput_eq_iff {v w : List Char} (different : v ≠ w) :
    renameOutput v = renameOutput w ↔
      Swapped legacyOutput defaultOutput v w ∨ Swapped legacyOutput defaultOutput w v := by
  have inNew : Clear defaultOutput legacyOutput := by decide
  have equal {s t : List Char} : Swapped legacyOutput defaultOutput s t →
      renameOutput s = renameOutput t :=
    Swapped.replaceAll_eq outputNames.old_ne_nil inNew (by decide) (by decide)
  constructor
  · intro same
    exact (swapped_of_replaceAll_eq outputNames inNew (by decide) same).resolve_left different
  · rintro (swapped | swapped)
    · exact equal swapped
    · exact (equal swapped).symm

/-- Only the default output itself becomes the same as the legacy one. -/
theorem eq_of_renameOutput {w : List Char} (same : renameOutput w = renameOutput legacyOutput) :
    w = legacyOutput ∨ w = defaultOutput := by
  have nonempty := outputNames.old_ne_nil
  have becomes : renameOutput legacyOutput = defaultOutput := by decide
  rw [becomes] at same
  by_cases here : legacyOutput <+: w
  · obtain ⟨rest, rfl⟩ := here
    rw [renameOutput, replaceAll_append nonempty, List.append_right_eq_self,
      replaceAll_eq_nil_iff outputNames] at same
    rw [same, List.append_nil]
    exact .inl rfl
  · have split : replaceAll legacyOutput defaultOutput w = defaultOutput ++ [] := by
      rw [List.append_nil]
      exact same
    obtain ⟨rest, rfl, none⟩ :=
      exists_of_replaceAll_eq_append outputNames (by decide) (by decide) here split
    rw [(replaceAll_eq_nil_iff outputNames).1 none, List.append_nil]
    exact .inr rfl

/-! ### The variable of the entry point -/

/-- An entry point that is added is the end of the program. -/
theorem entryWith_isSuffix {source : List Char} (adds : (canonicalize source).addsEntry = true) :
    entryWith entryColor (canonicalize source).outputName <:+ lines (canonicalize source).text := by
  have assign (output : List Char) : Canonical.assignment output =
      "    ".toList ++ output ++ " = ".toList ++ entryColor ++ ";".toList := by
    rw [List.append_assoc, List.append_assoc]
    rfl
  have entry : (canonicalize source).entryLines =
      Canonical.callingLines (canonicalize source).outputName := if_pos adds
  rw [lines_text, entry, entryWith, ← assign]
  exact (List.drop_suffix 1 (Canonical.callingLines _)).trans
    (List.suffix_append (Canonical.versionLine :: (_ ++ _)) _)

theorem outputName_ne_entryColor {source : List Char}
    (other : ∀ line ∈ lines (canonicalize source).body, outputName? line ≠ some entryColor) :
    (canonicalize source).outputName ≠ entryColor := by
  rw [Canonical.outputName]
  cases found : (canonicalize source).declared with
  | none => decide
  | some name =>
    obtain ⟨line, mem, declares⟩ := List.exists_of_findSome?_eq_some found
    rintro rfl
    exact other line mem declares

/-- The identifiers of the body are those on the kept lines, with the legacy output renamed in each.
Different ones become the same only if one of them has the legacy output where the other has the
default one, so the legacy output itself is taken for no other name than that.  An entry point that
is added writes a declared output, and unless the source declares one by the name of its variable,
this is not the variable. -/
theorem identifiers_text (source : List Char) :
    (lines (canonicalize source).body).flatMap identifiers =
        (keptIdentifiers source).map renameOutput ∧
      (∀ v ∈ keptIdentifiers source, ∀ w ∈ keptIdentifiers source, v ≠ w →
        (renameOutput v = renameOutput w ↔
          Swapped legacyOutput defaultOutput v w ∨ Swapped legacyOutput defaultOutput w v)) ∧
      (∀ w ∈ keptIdentifiers source, renameOutput w = renameOutput legacyOutput →
        w = legacyOutput ∨ w = defaultOutput) ∧
      ((canonicalize source).addsEntry = true →
        entryWith entryColor (canonicalize source).outputName <:+
            lines (canonicalize source).text ∧
          (∃ line ∈ lines (canonicalize source).text,
            outputName? line = some (canonicalize source).outputName) ∧
          ((∀ line ∈ lines (canonicalize source).body, outputName? line ≠ some entryColor) →
            (canonicalize source).outputName ≠ entryColor)) := by
  refine ⟨flatMap_identifiers_body source, ?_, ?_, fun adds => ⟨entryWith_isSuffix adds, ?_, ?_⟩⟩
  · intro v _ w _ different
    exact renameOutput_eq_iff different
  · intro w _ same
    exact eq_of_renameOutput same
  · exact List.mem_filterMap.1 (List.mem_of_head? (head?_declaredOutputs source))
  · exact outputName_ne_entryColor

/-- A variable by the name of the default output becomes the same as the legacy output, and an
output by the name of the variable of the entry point is hidden by it. -/
theorem not_keepsNamesApart :
    let merged := "void main() \x7b vec4 fragColor = vec4(1.0); gl_FragColor = fragColor; \x7d\n".toList
    let hidden := ("out vec4 shadereel_color;\n" ++
      "void mainImage(out vec4 c, in vec2 p) \x7b c = vec4(1.0); \x7d\n").toList
    ¬ KeepsNamesApart merged ∧ ¬ KeepsNamesApart hidden := by
  intro merged hidden
  constructor
  · rintro ⟨apart, -⟩
    refine apart legacyOutput ?_ defaultOutput ?_ ?_ ?_
    · decide +kernel
    · decide +kernel
    · decide
    · decide
  · rintro ⟨-, apart⟩
    refine apart ?_ ?_
    · decide +kernel
    · decide +kernel

end ShaderFilm.Shader
