import ShaderFilm.CommandLine.Plan
import ShaderFilm.Proofs.Files.Path

/-!
# The output of a shader where none is named

It is named after the file name of the shader, with `mp4` in the place of its extension, and it lies
in the working directory (`Plan.defaultOutput_named`).  So it is a video for playback, whatever the
shader is called.
-/

namespace ShaderFilm.CommandLine

open ShaderFilm.Encoder (Profile)
open ShaderFilm.Files (Path)
open ShaderFilm.Files.Path (cutName cutName_append cutName_eq_self isFiller)

namespace Plan

variable {shader : Path} {stem name : List Char}

/-! ### The name of the output -/

theorem defaultOutput_of_none (none : shader.fileName? = none) :
    defaultOutput shader = .ofString "output.mp4" := by
  rw [defaultOutput, Path.stem?, none]
  rfl

theorem defaultOutput_of_some (named : shader.fileName? = some name) :
    defaultOutput shader = ⟨(cutName name).1 ++ ".mp4".toList⟩ := by
  rw [defaultOutput, Path.stem?, named]
  rfl

theorem defaultOutput_congr {other : Path} (same : other.fileName? = shader.fileName?) :
    defaultOutput other = defaultOutput shader := by
  rw [defaultOutput, defaultOutput, Path.stem?, Path.stem?, same]

theorem exists_stem (shader : Path) :
    ∃ stem, defaultOutput shader = ⟨stem ++ ".mp4".toList⟩ ∧ stem ≠ [] ∧ '/' ∉ stem := by
  refine ⟨_, rfl, ?_⟩
  cases stem : shader.stem? with
  | none => decide
  | some stem => exact Path.stem?_eq_some stem

/-! ### The name as a path -/

theorem isName_video (filled : stem ≠ []) (whole : '/' ∉ stem) :
    Path.IsName (stem ++ ".mp4".toList) := by
  have long (piece : List Char) (short : piece.length ≤ 4) : stem ++ ".mp4".toList ≠ piece := by
    rintro rfl
    have front := List.length_pos_of_ne_nil filled
    rw [List.length_append, show ".mp4".toList.length = 4 from rfl] at short
    omega
  refine ⟨?_, ?_, long _ (by decide)⟩
  · rw [List.mem_append, not_or]
    exact ⟨whole, by decide⟩
  · rw [isFiller, Bool.or_eq_false_iff, List.isEmpty_eq_false_iff, beq_eq_false_iff_ne]
    exact ⟨long _ (by decide), long _ (by decide)⟩

theorem extension?_video (filled : stem ≠ []) (whole : '/' ∉ stem) :
    Path.extension? ⟨stem ++ ".mp4".toList⟩ = some "mp4".toList := by
  have cut : cutName (stem ++ ".mp4".toList) = (stem, some "mp4".toList) :=
    cutName_append filled (by decide)
  rw [Path.extension?, (isName_video filled whole).fileName?_eq, Option.bind_some, cut]

theorem forOutput_video (filled : stem ≠ []) (whole : '/' ∉ stem) :
    Profile.forOutput ⟨stem ++ ".mp4".toList⟩ = .delivery := by
  rw [Profile.forOutput, Profile.isMovie, extension?_video filled whole]
  rfl

/-- Where no output is named, it is called after the file name of the shader, wherever that lies.  The
file name is cut at its last dot, unless that is its first character.  The output is a single name
with the extension `mp4`. -/
theorem defaultOutput_named (shader : Path) :
    let name? := shader.names.getLast?.filter (· != "..".toList)
    let output := defaultOutput shader
    shader.fileName? = name? ∧
      (name? = none → output = .ofString "output.mp4") ∧
      (∀ stem ending, stem ≠ [] → '.' ∉ ending → name? = some (stem ++ '.' :: ending) →
        output = ⟨stem ++ ".mp4".toList⟩) ∧
      (∀ name, '.' ∉ name.tail → name? = some name → output = ⟨name ++ ".mp4".toList⟩) ∧
      (∀ other : Path, other.fileName? = shader.fileName? → defaultOutput other = output) ∧
      (∀ above below, shader.names ≠ [] → (∀ piece ∈ Path.split below, isFiller piece = true) →
        defaultOutput ⟨above ++ '/' :: (shader.text ++ '/' :: below)⟩ = output) ∧
      output.isAbsolute = false ∧ output.components = [output.text] ∧
      output.fileName? = some output.text ∧ output.extension? = some "mp4".toList ∧
      Profile.forOutput output = .delivery := by
  intro name? output
  have rule : shader.fileName? = name? := shader.fileName?_eq
  refine ⟨rule, fun none => defaultOutput_of_none (rule.trans none), ?_, ?_,
    fun other => defaultOutput_congr, ?_, ?_⟩
  · intro stem ending filled last named
    have cut := defaultOutput_of_some (rule.trans named)
    rwa [cutName_append filled last] at cut
  · intro name whole named
    have cut := defaultOutput_of_some (rule.trans named)
    rwa [cutName_eq_self whole] at cut
  · intro above below filled fillers
    exact defaultOutput_congr (Path.fileName?_between above filled fillers)
  · obtain ⟨stem, same, filled, whole⟩ := exists_stem shader
    have text : output = ⟨stem ++ ".mp4".toList⟩ := same
    have named := isName_video filled whole
    rw [text]
    exact ⟨named.isAbsolute_eq, named.components_eq, named.fileName?_eq,
      extension?_video filled whole, forOutput_video filled whole⟩

example : defaultOutput (.ofString "shaders/./..frag//.") = .ofString "..mp4" := by decide

end Plan

end ShaderFilm.CommandLine
