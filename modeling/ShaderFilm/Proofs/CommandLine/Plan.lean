import ShaderFilm.CommandLine.Run
import ShaderFilm.Proofs.CommandLine.Arguments
import ShaderFilm.Proofs.Number.Scaled

/-!
# Plans from accepted settings

A setting is checked where it is read: a flag by its reader, the settings of a job file when the
file is read.  What passes there passes the check of the render job as well, in any mixture of
flags, settings and defaults (`jobOf_validate`), so there is no plan only where no shader is named
(`resolve_fromFlags`).  A command line and a job file that could be read are such a mixture
(`resolve_of_read`).
-/

namespace ShaderFilm.CommandLine

open ShaderFilm.Files (Path)
open ShaderFilm.JobFile (Contents)
open ShaderFilm.Render (Job)

/-! ### What the readers of flags accept -/

section Flags

variable {text : List Char} {n : UInt32} {x : Float}

/-- A word that was accepted as a count is not zero. -/
theorem ne_zero_of_count {word : Option UInt32} {absent zero : ValueFault}
    (read : (match word with
      | none => .error absent
      | some n => if n = 0 then .error zero else .ok n) = Except.ok n) : n ≠ 0 := by
  split at read
  · cases read
  · split at read
    · cases read
    · next differs =>
      obtain rfl := Except.ok.inj read
      exact differs

theorem readDimension_ne_zero (read : readDimension text = .ok n) : n ≠ 0 := ne_zero_of_count read

theorem readRate_ne_zero (read : readRate text = .ok n) : n ≠ 0 := ne_zero_of_count read

theorem readDuration_nonneg (read : readDuration text = .ok x) :
    x.isFinite = true ∧ ¬ x < 0.0 := by
  unfold readDuration at read
  dsimp only at read
  by_cases empty : (Text.trim text).isEmpty = true
  · rw [if_pos empty] at read
    cases read
  rw [if_neg empty] at read
  obtain ⟨y, -, read⟩ := bind_eq_ok read
  by_cases refused : (!y.isFinite || decide (y < 0.0)) = true
  · rw [if_pos refused] at read
    cases read
  · rw [if_neg refused] at read
    obtain rfl := Except.ok.inj read
    simpa using refused

theorem readStart_isFinite (read : readStart text = .ok x) : x.isFinite = true := by
  unfold readStart at read
  split at read
  · cases read
  · split at read
    · next finite =>
      obtain rfl := Except.ok.inj read
      exact finite
    · cases read

end Flags

/-! ### What a job file accepts -/

theorem checkNumber_eq_ok {field : String} {value : Option UInt32} {u : Unit}
    (accepted : Contents.checkNumber field value = .ok u) : value ≠ some 0 := by
  unfold Contents.checkNumber at accepted
  split at accepted
  · cases accepted
  · assumption

/-- The settings of a job file are such that a job can take them. -/
structure Usable (c : Contents) : Prop where
  width : c.width ≠ some 0
  height : c.height ≠ some 0
  fps : c.fps ≠ some 0
  start : ∀ x ∈ c.start, x.isFinite = true

theorem usable_of_validate {c : Contents} (accepted : c.validate = .ok ()) : Usable c := by
  unfold Contents.validate at accepted
  dsimp only at accepted
  by_cases version : c.version ≠ Contents.currentVersion
  · rw [if_pos version] at accepted
    cases accepted
  rw [if_neg version] at accepted
  obtain ⟨_, width, accepted⟩ := bind_eq_ok accepted
  obtain ⟨_, height, accepted⟩ := bind_eq_ok accepted
  obtain ⟨_, fps, accepted⟩ := bind_eq_ok accepted
  obtain ⟨_, -, accepted⟩ := bind_eq_ok accepted
  obtain ⟨_, -, accepted⟩ := bind_eq_ok accepted
  refine ⟨checkNumber_eq_ok width, checkNumber_eq_ok height, checkNumber_eq_ok fps,
    fun x given => ?_⟩
  by_cases finite : x.isFinite = true
  · exact finite
  · have refused : (c.start.any fun x => !x.isFinite) = true := by
      rw [Option.mem_def.1 given]
      simpa using finite
    rw [if_pos refused] at accepted
    cases accepted

theorem usable_empty : Usable .empty := usable_of_validate rfl

theorem Usable.seenFrom {c : Contents} (usable : Usable c) (path : Path) :
    Usable (c.seenFrom path) := by
  unfold Contents.seenFrom
  split
  · exact usable
  · exact { usable with }

theorem ofDatum_usable {dialect : JobFile.Dialect} {d : JobFile.Datum} {c : Contents}
    (read : Contents.ofDatum dialect d = .ok c) : Usable c := by
  unfold Contents.ofDatum at read
  split at read
  · cases read
  · split at read
    · cases read
    · next accepted =>
      obtain rfl := Except.ok.inj read
      exact usable_of_validate accepted

theorem load_usable {files : Files.Tree} {path : Path} {c : Contents}
    (loaded : Contents.load files path = .ok c) : Usable c := by
  unfold Contents.load at loaded
  split at loaded
  · cases loaded
  · split at loaded
    · cases loaded
    · next text _ read =>
      obtain rfl := Except.ok.inj loaded
      unfold Contents.ofText at read
      split at read
      · cases read
      · exact (ofDatum_usable read).seenFrom path

theorem loadJobFile_usable {a : Arguments} {files : Files.Tree} {c : Contents}
    (loaded : loadJobFile a files = .ok c) : Usable c := by
  unfold loadJobFile at loaded
  split at loaded
  · obtain rfl := Except.ok.inj loaded
    exact usable_empty
  · split at loaded
    · next ok =>
      obtain rfl := Except.ok.inj loaded
      exact load_usable ok
    · cases loaded

/-! ### Jobs and plans -/

/-- What holds of the value of either source and of the default holds of the value that is used. -/
theorem forall_or_getD {α : Type} {P : α → Prop} {first second : Option α} {default : α}
    (ofFirst : ∀ a ∈ first, P a) (ofSecond : ∀ a ∈ second, P a) (ofDefault : P default) :
    P ((first.or second).getD default) := by
  cases first with
  | some a => exact ofFirst a rfl
  | none =>
    cases second with
    | some a => exact ofSecond a rfl
    | none => exact ofDefault

theorem validate_job {job : Job} (width : job.width ≠ 0) (height : job.height ≠ 0)
    (fps : job.fps ≠ 0) (duration : job.duration.isFinite = true ∧ ¬ job.duration < 0.0)
    (start : job.startTime.isFinite = true) : job.validate = .ok () := by
  simp [Job.validate, width, height, fps, duration, start]
  rfl

section Merge

variable {a : Arguments} {c : Contents}

/-- Settings that were accepted where they were read make a job that is accepted, wherever each of
them comes from. -/
theorem jobOf_validate (flags : a.FromFlags) (usable : Usable c) (shader : Path) :
    (Plan.jobOf a c shader).validate = .ok () := by
  have nonzero {value : Option UInt32} (set : value ≠ some 0) : ∀ n ∈ value, n ≠ 0 := by
    rintro n given rfl
    exact set given
  refine validate_job (forall_or_getD ?_ (nonzero usable.width) (by decide))
    (forall_or_getD ?_ (nonzero usable.height) (by decide))
    (forall_or_getD ?_ (nonzero usable.fps) (by decide))
    (forall_or_getD (P := fun x : Float => x.isFinite = true ∧ ¬ x < 0.0) ?_ ?_ (by decide))
    (forall_or_getD (P := fun x : Float => x.isFinite = true) ?_ usable.start (by decide))
  · intro n given
    obtain ⟨text, read⟩ := flags.width n given
    exact readDimension_ne_zero read
  · intro n given
    obtain ⟨text, read⟩ := flags.height n given
    exact readDimension_ne_zero read
  · intro n given
    obtain ⟨text, read⟩ := flags.fps n given
    exact readRate_ne_zero read
  · intro x given
    obtain ⟨text, read⟩ := flags.duration x given
    exact readDuration_nonneg read
  · intro x given
    obtain ⟨d, -, rfl⟩ := Option.map_eq_some_iff.1 given
    exact d.toFloat_nonneg
  · intro x given
    obtain ⟨text, read⟩ := flags.start x given
    exact readStart_isFinite read

theorem resolve_of_none (none : a.shader.or c.shader = none) :
    Plan.resolve a c = .error .noShader := by
  unfold Plan.resolve
  rw [none]
  rfl

theorem resolve_of_some {shader : Path} (named : a.shader.or c.shader = some shader)
    (valid : (Plan.jobOf a c shader).validate = .ok ()) :
    ∃ p, Plan.resolve a c = .ok p ∧ p.shader = shader ∧ p.job = Plan.jobOf a c shader := by
  unfold Plan.resolve
  rw [named]
  dsimp only
  rw [valid]
  exact ⟨_, rfl, rfl, rfl⟩

theorem resolve_eq_error_iff (flags : a.FromFlags) (usable : Usable c) {fault : PlanFault} :
    Plan.resolve a c = .error fault ↔ fault = .noShader ∧ a.shader = none ∧ c.shader = none := by
  constructor
  · intro refused
    cases named : a.shader.or c.shader with
    | none =>
      rw [resolve_of_none named] at refused
      obtain rfl := Except.error.inj refused
      exact ⟨rfl, Option.or_eq_none_iff.1 named⟩
    | some shader =>
      obtain ⟨p, resolved, -⟩ := resolve_of_some named (jobOf_validate flags usable shader)
      cases resolved.symm.trans refused
  · rintro ⟨rfl, first, second⟩
    exact resolve_of_none (Option.or_eq_none_iff.2 ⟨first, second⟩)

/-- A command line and a job file that could be read make a plan, unless neither names a shader. -/
theorem resolve_of_read {arguments : List String} {encoder : Option String} {files : Files.Tree}
    (read : Arguments.read arguments encoder = .ok a) (loaded : loadJobFile a files = .ok c)
    {fault : PlanFault} :
    Plan.resolve a c = .error fault ↔ fault = .noShader ∧ a.shader = none ∧ c.shader = none :=
  resolve_eq_error_iff (read_fromFlags read) (loadJobFile_usable loaded)

end Merge

/-- Where the flags come from their readers, and the settings of the job file are accepted, there is
no plan only if no shader is named.  If one is, its plan has a job that is accepted. -/
theorem resolve_fromFlags (a : Arguments) (c : Contents) (flags : a.FromFlags)
    (accepted : c.validate = .ok () ∨ c = .empty) :
    (∀ fault, Plan.resolve a c = .error fault ↔
        fault = .noShader ∧ a.shader = none ∧ c.shader = none) ∧
      ∀ shader, a.shader.or c.shader = some shader → ∃ p, Plan.resolve a c = .ok p ∧
        p.shader = shader ∧ p.job = Plan.jobOf a c shader ∧ p.job.validate = .ok () := by
  have usable : Usable c := by
    rcases accepted with accepted | rfl
    · exact usable_of_validate accepted
    · exact usable_empty
  refine ⟨fun fault => resolve_eq_error_iff flags usable, fun shader named => ?_⟩
  have valid := jobOf_validate flags usable shader
  obtain ⟨p, resolved, same, job⟩ := resolve_of_some named valid
  exact ⟨p, resolved, same, job, job ▸ valid⟩

/-- Arguments that give a width and a start. -/
def mixedArguments : Arguments :=
  { Arguments.empty with width := some 64, start := some 1.0 }

/-- Contents that give the shader, the height and the duration. -/
def mixedContents : Contents :=
  { Contents.empty with
    shader := some ⟨"a.glsl".toList⟩
    height := some 48
    duration := some ⟨90, 500000000, by decide, by decide⟩ }

theorem resolve_fromFlags_mixed :
    mixedArguments.FromFlags ∧ mixedContents.validate = .ok () ∧
      ∃ p, Plan.resolve mixedArguments mixedContents = .ok p ∧
        p.job.width = 64 ∧ p.job.height = 48 ∧ p.job.fps = 30 ∧ p.job.validate = .ok () := by
  have flags : mixedArguments.FromFlags := by
    refine ⟨?_, ?_, ?_, ?_, ?_, ?_⟩
    · rintro n ⟨⟩
      exact ⟨"64".toList, rfl⟩
    · rintro n ⟨⟩
    · rintro x ⟨⟩
    · rintro n ⟨⟩
    · rintro x ⟨⟩
      exact ⟨"1".toList, rfl⟩
    · rintro p ⟨⟩
  have accepted : mixedContents.validate = .ok () := rfl
  obtain ⟨p, resolved, -, job, valid⟩ :=
    (resolve_fromFlags mixedArguments mixedContents flags (.inl accepted)).2 _ rfl
  refine ⟨flags, accepted, p, resolved, ?_, ?_, ?_, valid⟩
  all_goals
    rw [job]
    rfl

end ShaderFilm.CommandLine
