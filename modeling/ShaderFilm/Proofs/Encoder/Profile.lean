import ShaderFilm.Encoder.Config
import ShaderFilm.Proofs.Files.LowerCase
import ShaderFilm.Proofs.Text.Occurrence

/-!
# The profile of an output

What an output is made for is decided by the extension of its file name, in capitals or not
(`Profile.isMovie_iff`).  So it does not matter which letters of its path are capitals
(`Profile.forOutput_lower`), nor where the output lies, as long as its path names something
(`Profile.forOutput_below`).  The profile decides in turn which sizes are refused
(`Config.validate_eq_ok_iff`).
-/

namespace ShaderFilm.Encoder

open ShaderFilm.Files (Path)
open ShaderFilm.Files.Path (cutName cutName_append cutName_cases cutName_eq_self names_append)
open ShaderFilm.Text (isBlank trim_eq_nil_iff)

/-! ### Profiles and names -/

namespace Profile

theorem forOutput_kind (p : Path) : (forOutput p).kind = .mezzanine ↔ isMovie p = true := by
  rw [forOutput]
  split
  · next movie => exact iff_of_true rfl movie
  · next other => exact iff_of_false nofun other

/-- Outputs for editing have the extension `mov`, in capitals or not, behind a stem. -/
theorem isMovie_iff (p : Path) :
    isMovie p = true ↔
      ∃ stem ending, p.fileName? = some (stem ++ '.' :: ending) ∧ stem ≠ [] ∧ '.' ∉ ending ∧
        ending.map Char.toLower = "mov".toList := by
  rw [isMovie, Path.extension?]
  constructor
  · intro movie
    cases named : p.fileName? with
    | none =>
      rw [named] at movie
      cases movie
    | some name =>
      rw [named, Option.bind_some] at movie
      obtain ⟨stem, ending, filled, last, rfl⟩ | whole := cutName_cases name
      · rw [cutName_append filled last] at movie
        exact ⟨stem, ending, rfl, filled, last, beq_iff_eq.1 movie⟩
      · rw [cutName_eq_self whole] at movie
        cases movie
  · rintro ⟨stem, ending, named, filled, last, same⟩
    rw [named, Option.bind_some, cutName_append filled last]
    exact beq_iff_eq.2 same

theorem forOutput_congr {p q : Path} (same : q.fileName? = p.fileName?) :
    forOutput q = forOutput p := by
  rw [forOutput, forOutput, isMovie, isMovie, Path.extension?, Path.extension?, same]

/-- Capitals do not matter. -/
theorem forOutput_lower (p : Path) : forOutput p.lower = forOutput p := by
  have twice (e : List Char) : (e.map Char.toLower).map Char.toLower = e.map Char.toLower := by
    rw [List.map_map]
    exact List.map_congr_left fun c _ => Files.toLower_toLower c
  rw [forOutput, forOutput, isMovie, isMovie, Path.extension?_lower]
  cases p.extension? with
  | none => rfl
  | some e => rw [Option.map_some, Option.any_some, Option.any_some, twice]

/-- What stands in front of a path matters only if the path names nothing. -/
theorem forOutput_below (above : List Char) (p : Path) :
    forOutput ⟨above ++ '/' :: p.text⟩ =
      if p.names = [] then forOutput ⟨above⟩ else forOutput p := by
  split
  · next none =>
    refine forOutput_congr ?_
    rw [Path.fileName?_eq, Path.fileName?_eq, names_append, none, List.append_nil]
  · next some =>
    refine forOutput_congr ?_
    rw [Path.fileName?_eq, Path.fileName?_eq, names_append, List.getLast?_append_of_ne_nil _ some]

theorem forOutput_append {below : List Char} (fillers : Path.names ⟨below⟩ = []) (p : Path) :
    forOutput ⟨p.text ++ '/' :: below⟩ = forOutput p := by
  have below := forOutput_below p.text ⟨below⟩
  rwa [if_pos fillers] at below

end Profile

/-! ### Sizes that are refused -/

theorem even_iff {n : UInt32} : n % 2 = 0 ↔ 2 ∣ n.toNat := by
  rw [← UInt32.toNat_inj, UInt32.toNat_mod]
  exact (Nat.dvd_iff_mod_eq_zero ..).symm

section Refuse

variable {p : Prop} [Decidable p] {fault : ConfigFault}

theorem refuse_then_eq_ok {rest : Except ConfigFault Unit} :
    (if p then (do throw fault; rest) else rest) = .ok () ↔ ¬ p ∧ rest = .ok () := by
  split
  · next refused => exact iff_of_false nofun fun both => both.1 refused
  · next passes => exact (and_iff_right passes).symm

theorem refuse_eq_ok :
    (if p then throw fault else pure () : Except ConfigFault Unit) = .ok () ↔ ¬ p := by
  split
  · next refused => exact iff_of_false nofun fun passes => passes refused
  · next passes => exact iff_of_true rfl passes

end Refuse

theorem Profile.evenWidth_forOutput (p : Path) : (forOutput p).requiresEvenWidth = true := by
  rw [forOutput]
  split <;> decide

theorem Profile.evenHeight_forOutput (p : Path) :
    (forOutput p).requiresEvenHeight = true ↔ (forOutput p).kind ≠ .mezzanine := by
  rw [forOutput]
  split <;> decide

/-- Settings pass if nothing is missing and the size suits the profile. -/
theorem Config.validate_eq_ok_iff (c : Config) :
    c.validate = .ok () ↔
      (c.width ≠ 0 ∧ c.height ≠ 0 ∧ c.fps ≠ 0 ∧ c.output.text ≠ [] ∧
        ∃ char ∈ c.program.toList, isBlank char = false) ∧
      2 ∣ c.width.toNat ∧ (2 ∣ c.height.toNat ∨ c.profile.kind = .mezzanine) := by
  unfold validate
  dsimp only
  simp only [refuse_then_eq_ok, refuse_eq_ok, List.isEmpty_iff, trim_eq_nil_iff]
  rw [profile, Profile.evenHeight_forOutput, Profile.evenWidth_forOutput, ← even_iff, ← even_iff,
    or_comm (b := _ = ProfileKind.mezzanine)]
  simp only [not_or, not_forall, not_and_or, ne_eq, not_not, Bool.not_eq_true, exists_prop,
    not_true_eq_false, false_or, and_assoc]

/-! ### The profile as a whole -/

/-- An output is encoded for editing if its file name is a stem with the extension `mov`, in capitals
or not.  The profile is the same under every path in front, unless the path names nothing, with
separators and single dots behind, and with other capitals.  Settings without gaps pass if their width
is even and so is their height, or the output is for editing. -/
theorem Profile.forOutput_named (p : Path) :
    let name? := p.names.getLast?.filter (· != "..".toList)
    p.fileName? = name? ∧
    ((forOutput p).kind = .mezzanine ↔
      ∃ stem ending, name? = some (stem ++ '.' :: ending) ∧ stem ≠ [] ∧ '.' ∉ ending ∧
        ending.map Char.toLower = "mov".toList) ∧
    (∀ above, forOutput ⟨above ++ '/' :: p.text⟩ =
      if p.names = [] then forOutput ⟨above⟩ else forOutput p) ∧
    forOutput ⟨p.text ++ ['/']⟩ = forOutput p ∧ forOutput ⟨p.text ++ ['/', '.']⟩ = forOutput p ∧
    (∀ q : Path, q.text.map Char.toLower = p.text.map Char.toLower → forOutput q = forOutput p) ∧
    ∀ (width height fps : UInt32) (program logLevel : String),
      Config.validate ⟨width, height, fps, p, program, logLevel⟩ = .ok () ↔
        (width ≠ 0 ∧ height ≠ 0 ∧ fps ≠ 0 ∧ p.text ≠ [] ∧
          ∃ c ∈ program.toList, isBlank c = false) ∧
        2 ∣ width.toNat ∧ (2 ∣ height.toNat ∨ (forOutput p).kind = .mezzanine) := by
  intro name?
  have rule : p.fileName? = name? := p.fileName?_eq
  refine ⟨rule, ?_, fun above => forOutput_below above p, forOutput_append rfl p,
    forOutput_append rfl p, fun q same => ?_, fun width height fps program logLevel => ?_⟩
  · rw [forOutput_kind, isMovie_iff, rule]
  · have lower : q.lower = p.lower := by rw [Path.lower, Path.lower, same]
    rw [← forOutput_lower q, lower, forOutput_lower]
  · exact Config.validate_eq_ok_iff ⟨width, height, fps, p, program, logLevel⟩

/-- An output for editing whose extension is written in two ways, of an odd height. -/
theorem Profile.forOutput_named_take :
    let p := Path.ofString "renders/take.1.Mov"
    let q := Path.ofString "Renders/take.1.mOV"
    q.text.map Char.toLower = p.text.map Char.toLower ∧ forOutput q = forOutput p ∧
      (forOutput p).kind = .mezzanine ∧
      Config.validate ⟨64, 33, 30, p, "ffmpeg", "error"⟩ = .ok () := by
  intro p q
  have same : q.text.map Char.toLower = p.text.map Char.toLower := by decide
  obtain ⟨-, movie, -, -, -, capitals, passes⟩ := forOutput_named p
  have kind : (forOutput p).kind = .mezzanine :=
    movie.2 ⟨"take.1".toList, "Mov".toList, by decide, by decide, by decide, by decide⟩
  refine ⟨same, capitals q same, kind, (passes 64 33 30 "ffmpeg" "error").2 ⟨?_, ?_, .inr kind⟩⟩
  · exact ⟨by decide, by decide, by decide, by decide, 'f', by decide, by decide⟩
  · decide

/-- A path that names nothing is for playback, and below a directory that is called as a video for
editing it is for editing. -/
theorem Profile.not_forall_forOutput_below :
    (forOutput (.ofString ".")).kind = .delivery ∧
      (forOutput (.ofString "clip.mov/.")).kind = .mezzanine ∧
      ¬ ∀ above (p : Path), forOutput ⟨above ++ '/' :: p.text⟩ = forOutput p := by
  refine ⟨by decide, by decide, fun all => ?_⟩
  have same := all "clip.mov".toList (.ofString ".")
  revert same
  decide

end ShaderFilm.Encoder
