import ShaderFilm.CommandLine.Plan

/-!
# Precedence of settings

A plan is merged setting by setting: what the command line gives, else what the job file sets, else
the default.  Two statements about pairs of runs say that no setting is mixed up with another
(`resolve_precedence`).  What the job file sets does not matter where the command line gives a value
of its own, not even for the faults that are found.  And a change of one flag shows in the field of
that flag only, with one exception: the shader names the output where nothing else does.
-/

namespace ShaderFilm.CommandLine

open ShaderFilm.JobFile (Contents)

/-! ### Agreement outside some settings -/

/-- Arguments that give the same, settings with `free` left aside. -/
structure Arguments.Agree (free : Setting → Prop) (a b : Arguments) : Prop where
  shader : ¬ free .shader → a.shader = b.shader
  output : ¬ free .output → a.output = b.output
  width : ¬ free .width → a.width = b.width
  height : ¬ free .height → a.height = b.height
  duration : ¬ free .duration → a.duration = b.duration
  fps : ¬ free .fps → a.fps = b.fps
  start : ¬ free .start → a.start = b.start
  config : ¬ free .config → a.config = b.config
  ffmpeg : ¬ free .ffmpeg → a.ffmpeg = b.ffmpeg
  gpuPower : ¬ free .gpuPower → a.gpuPower = b.gpuPower
  stillExport : ¬ free .stillExport → a.stillExport = b.stillExport
  dumpCanonical : ¬ free .dumpCanonical → a.dumpCanonical = b.dumpCanonical

/-- Contents that set the same, settings with `free` left aside.  The level of the encoder's log has
no flag.  Versions may differ; no plan depends on them. -/
structure Contents.Agree (free : Setting → Prop) (c d : Contents) : Prop where
  shader : ¬ free .shader → c.shader = d.shader
  output : ¬ free .output → c.output = d.output
  width : ¬ free .width → c.width = d.width
  height : ¬ free .height → c.height = d.height
  duration : ¬ free .duration → c.duration = d.duration
  fps : ¬ free .fps → c.fps = d.fps
  start : ¬ free .start → c.start = d.start
  program : ¬ free .ffmpeg → c.encoder.program = d.encoder.program
  logLevel : c.encoder.logLevel = d.encoder.logLevel
  power : ¬ free .gpuPower → c.gpu.power = d.gpu.power

/-- Plans that are the same, the fields of settings with `free` left aside. -/
structure Plan.Agree (free : Setting → Prop) (p q : Plan) : Prop where
  shader : ¬ free .shader → p.shader = q.shader
  output : ¬ free .output → p.job.output = q.job.output
  width : ¬ free .width → p.job.width = q.job.width
  height : ¬ free .height → p.job.height = q.job.height
  duration : ¬ free .duration → p.job.duration = q.job.duration
  fps : ¬ free .fps → p.job.fps = q.job.fps
  start : ¬ free .start → p.job.startTime = q.job.startTime
  program : ¬ free .ffmpeg → p.encoderProgram = q.encoderProgram
  logLevel : p.encoderLogLevel = q.encoderLogLevel
  power : ¬ free .gpuPower → p.device.power = q.device.power
  fallback : p.device.forceFallback = q.device.forceFallback

/-- Whether arguments give a value for a setting. -/
def Arguments.gives (a : Arguments) : Setting → Bool
  | .shader => a.shader.isSome
  | .output => a.output.isSome
  | .width => a.width.isSome
  | .height => a.height.isSome
  | .duration => a.duration.isSome
  | .fps => a.fps.isSome
  | .start => a.start.isSome
  | .config => a.config.isSome
  | .ffmpeg => a.ffmpeg.isSome
  | .gpuPower => a.gpuPower.isSome
  | .stillExport => a.stillExport.isSome
  | .dumpCanonical => a.dumpCanonical
  | .help => false
  | .version => false

/-! ### Merging -/

/-- The second of two sources counts only where the first gives nothing. -/
theorem or_congr_right {α : Type} {first second other : Option α}
    (agree : ¬ first.isSome = true → second = other) : first.or second = first.or other := by
  cases first with
  | some a => rfl
  | none =>
    rw [agree Bool.false_ne_true]

/-- The first of two sources counts with its value only. -/
theorem or_getD_congr {α : Type} {first other second : Option α} {default : α}
    (agree : first = other) : (first.or second).getD default = (other.or second).getD default := by
  rw [agree]

namespace Plan

/-- The plan that is made for a shader once its job has been accepted. -/
def merged (a : Arguments) (c : Contents) (shader : Files.Path) : Plan where
  shader := shader
  job := jobOf a c shader
  encoderProgram := (a.ffmpeg.or c.encoder.program).getD Encoder.Config.defaultProgram
  encoderLogLevel := c.encoder.logLevel.getD Encoder.Config.defaultLogLevel
  device := ⟨(a.gpuPower.or c.gpu.power).getD .default, false⟩

theorem resolve_eq (a : Arguments) (c : Contents) :
    resolve a c = match a.shader.or c.shader with
      | none => .error .noShader
      | some shader =>
        match (jobOf a c shader).validate with
        | .error fault => .error (.settings fault)
        | .ok () => .ok (merged a c shader) := by
  unfold resolve
  cases a.shader.or c.shader with
  | none => rfl
  | some shader =>
    dsimp only
    cases (jobOf a c shader).validate <;> rfl

theorem resolve_eq_ok_iff {a : Arguments} {c : Contents} {p : Plan} :
    resolve a c = .ok p ↔ ∃ shader, a.shader.or c.shader = some shader ∧
      (jobOf a c shader).validate = .ok () ∧ merged a c shader = p := by
  rw [resolve_eq]
  constructor
  · intro resolved
    split at resolved
    · cases resolved
    · next shader named =>
      split at resolved
      · cases resolved
      · next valid => exact ⟨shader, named, valid, Except.ok.inj resolved⟩
  · rintro ⟨shader, named, valid, rfl⟩
    rw [named]
    dsimp only
    rw [valid]

end Plan

section JobFiles

variable {a : Arguments} {c d : Contents}

/-- The whole plan comes from merged values, so contents that merge alike make the same plan. -/
theorem merged_congr (agree : Contents.Agree (a.gives ·) c d) (shader : Files.Path) :
    Plan.merged a c shader = Plan.merged a d shader := by
  have duration : a.duration.or c.durationSeconds = a.duration.or d.durationSeconds :=
    or_congr_right fun unset => congrArg (Option.map Time.Span.toFloat) (agree.duration unset)
  unfold Plan.merged Plan.jobOf
  rw [or_congr_right agree.width, or_congr_right agree.height, duration, or_congr_right agree.fps,
    or_congr_right agree.start, or_congr_right agree.output, or_congr_right agree.program,
    agree.logLevel, or_congr_right agree.power]

theorem resolve_congr (agree : Contents.Agree (a.gives ·) c d) :
    Plan.resolve a c = Plan.resolve a d := by
  rw [Plan.resolve_eq, Plan.resolve_eq, or_congr_right agree.shader]
  cases a.shader.or d.shader with
  | none => rfl
  | some shader =>
    have same := merged_congr agree shader
    have job : Plan.jobOf a c shader = Plan.jobOf a d shader := congrArg Plan.job same
    dsimp only
    rw [job, same]

end JobFiles

/-! ### One flag -/

section Flags

variable {a b : Arguments} {c : Contents} {s : Setting}

/-- The settings whose fields a change of `s` may show in: its own, and for the shader the output
where neither source names one. -/
def shownBy (a : Arguments) (c : Contents) (s t : Setting) : Prop :=
  t = s ∨ t = .output ∧ s = .shader ∧ a.output = none ∧ c.output = none

theorem merged_agree (agree : a.Agree (· = s) b) {first second : Files.Path}
    (named : a.shader.or c.shader = some first) (renamed : b.shader.or c.shader = some second) :
    (Plan.merged a c first).Agree (shownBy a c s) (Plan.merged b c second) := by
  have own {t : Setting} (kept : ¬ shownBy a c s t) : ¬ t = s := fun same => kept (.inl same)
  have shader (other : ¬ Setting.shader = s) : first = second := by
    rw [agree.shader other] at named
    exact Option.some.inj (named.symm.trans renamed)
  refine ⟨fun kept => shader (own kept), fun kept => ?_, fun kept => ?_, fun kept => ?_,
    fun kept => ?_, fun kept => ?_, fun kept => ?_, fun kept => ?_, rfl, fun kept => ?_, rfl⟩
  · -- the name of the shader counts only where no output is named
    refine Eq.trans ?_ (or_getD_congr (agree.output (own kept)))
    show (a.output.or c.output).getD _ = (a.output.or c.output).getD _
    cases output : a.output.or c.output with
    | some path => rfl
    | none =>
      obtain ⟨first, second⟩ := Option.or_eq_none_iff.1 output
      have other : ¬ Setting.shader = s := fun same => kept (.inr ⟨rfl, same.symm, first, second⟩)
      rw [shader other]
  · exact or_getD_congr (agree.width (own kept))
  · exact or_getD_congr (agree.height (own kept))
  · exact or_getD_congr (agree.duration (own kept))
  · exact or_getD_congr (agree.fps (own kept))
  · exact or_getD_congr (agree.start (own kept))
  · exact or_getD_congr (agree.ffmpeg (own kept))
  · exact or_getD_congr (agree.gpuPower (own kept))

end Flags

/-- The command line goes before the job file, setting by setting.  Contents that differ only where
the arguments give a value make the same plan, or the same fault.  Arguments that differ in one
setting make plans that differ in its field at most, and in the output if the setting is the shader
and neither source names an output, which is then the one named after the shader. -/
theorem resolve_precedence (a : Arguments) (c : Contents) :
    (∀ d, Contents.Agree (a.gives ·) c d → Plan.resolve a c = Plan.resolve a d) ∧
      ∀ s b p q, a.Agree (· = s) b → Plan.resolve a c = .ok p → Plan.resolve b c = .ok q →
        p.Agree (shownBy a c s) q ∧
          (s = .shader → a.output = none → c.output = none →
            p.job.output = Plan.defaultOutput p.shader ∧
              q.job.output = Plan.defaultOutput q.shader) := by
  refine ⟨fun d agree => resolve_congr agree, fun s b p q agree made remade => ?_⟩
  obtain ⟨first, named, -, rfl⟩ := Plan.resolve_eq_ok_iff.1 made
  obtain ⟨second, renamed, -, rfl⟩ := Plan.resolve_eq_ok_iff.1 remade
  refine ⟨merged_agree agree named renamed, fun isShader unnamed unset => ?_⟩
  have same : b.output = none := by
    rw [← agree.output (by rw [isShader]; decide), unnamed]
  constructor
  · show (a.output.or c.output).getD _ = _
    rw [unnamed, unset]
    rfl
  · show (b.output.or c.output).getD _ = _
    rw [same, unset]
    rfl

/-- Arguments that give a width. -/
def wideArguments : Arguments := { Arguments.empty with width := some 64 }

/-- The same with a shader. -/
def shadedArguments : Arguments := { wideArguments with shader := some ⟨"b.glsl".toList⟩ }

/-- Contents that give a shader and a width. -/
def sizedContents (width : UInt32) : Contents :=
  { Contents.empty with shader := some ⟨"a.glsl".toList⟩, width := some width }

theorem resolve_precedence_wide :
    Contents.Agree (wideArguments.gives ·) (sizedContents 32) (sizedContents 0) ∧
      wideArguments.Agree (· = .shader) shadedArguments ∧
      Plan.resolve wideArguments (sizedContents 32) =
        Plan.resolve wideArguments (sizedContents 0) ∧
      ∃ p q, Plan.resolve wideArguments (sizedContents 32) = .ok p ∧
        Plan.resolve shadedArguments (sizedContents 32) = .ok q ∧
        p.Agree (shownBy wideArguments (sizedContents 32) .shader) q ∧
        p.job.output = ⟨"a.mp4".toList⟩ ∧ q.job.output = ⟨"b.mp4".toList⟩ := by
  have contents : Contents.Agree (wideArguments.gives ·) (sizedContents 32) (sizedContents 0) :=
    ⟨fun _ => rfl, fun _ => rfl, fun unset => absurd rfl unset, fun _ => rfl, fun _ => rfl,
      fun _ => rfl, fun _ => rfl, fun _ => rfl, rfl, fun _ => rfl⟩
  have arguments : wideArguments.Agree (· = .shader) shadedArguments :=
    ⟨fun other => absurd rfl other, fun _ => rfl, fun _ => rfl, fun _ => rfl, fun _ => rfl,
      fun _ => rfl, fun _ => rfl, fun _ => rfl, fun _ => rfl, fun _ => rfl, fun _ => rfl,
      fun _ => rfl⟩
  have made := Plan.resolve_eq_ok_iff (a := wideArguments) (c := sizedContents 32).2
    ⟨_, rfl, rfl, rfl⟩
  have remade := Plan.resolve_eq_ok_iff (a := shadedArguments) (c := sizedContents 32).2
    ⟨_, rfl, rfl, rfl⟩
  obtain ⟨same, changed⟩ := resolve_precedence wideArguments (sizedContents 32)
  obtain ⟨agree, outputs⟩ := changed .shader shadedArguments _ _ arguments made remade
  obtain ⟨first, second⟩ := outputs rfl rfl rfl
  exact ⟨contents, arguments, same _ contents, _, _, made, remade, agree, first.trans rfl,
    second.trans rfl⟩

end ShaderFilm.CommandLine
