import ShaderFilm.Proofs.CommandLine.Course
import ShaderFilm.Proofs.Encoder.Feeding

/-!
# What comes before what in a run

A run follows its stages (`course_report`), so nothing that belongs to a later stage is done before
an earlier one has passed.  `run_stages` says what this means for adapters, for encoders and for the
file tree.  An encode may stop half way through making the directory of its output
(`run_leaves_directory`).
-/

namespace ShaderFilm.CommandLine

open ShaderFilm.Device (Adapter Request Session)
open ShaderFilm.Encoder (Deed Host)
open ShaderFilm.Files (Tree)
open ShaderFilm.Shader (Compiled)

variable {σ : Type}

/-- The stages at which a step may be done. -/
def Step.stages : Step → List Stage
  | .probe _ => [.probe]
  | .device _ => [.session, .draw, .encode]
  | .encoder _ => [.encode]

/-- The stages that come before another. -/
def Arguments.ahead (a : Arguments) (s : Stage) : List Stage :=
  a.stages.takeWhile (· ≠ s)

namespace Call

variable {c : Call σ} {s : Stage}

/-- The probe of the encoder writes nothing. -/
def Quiet (c : Call σ) : Prop :=
  ∀ program ending, c.host.run c.files program ["-version"] = .ok ending → ending.files = c.files

/-- What a run has behind it when it turns to a device. -/
structure Ready (c : Call σ) (p : Plan) (x : Compiled) : Prop where
  wanted : c.arguments.dumpCanonical = false
  plan : ∃ contents, loadJobFile c.arguments c.files = .ok contents ∧
    Plan.resolve c.arguments contents = .ok p
  program : ∃ source, Render.loadShader c.files p.shader = .ok source ∧
    compileFor (Shader.canonicalize source) = .ok x
  encoder : c.arguments.stillExport = none → p.job.totalFrames ≠ 0 ∧
    (Encoder.probe c.host c.files p.encoderProgram).1 = none ∧ p.encoderConfig.validate = .ok ()

section Passed

variable {p : Plan}

theorem plan_of_passed (jobFile : c.fault? .jobFile = none) (plan : c.fault? .plan = none) :
    ∃ contents p, loadJobFile c.arguments c.files = .ok contents ∧
      Plan.resolve c.arguments contents = .ok p ∧ c.plan? = some p := by
  obtain ⟨contents, loaded⟩ := faultOf_eq_none jobFile
  have read := contents?_eq loaded
  rw [fault?_plan read] at plan
  obtain ⟨p, resolved⟩ := faultOf_eq_none (Option.map_eq_none_iff.1 plan)
  exact ⟨contents, p, loaded, resolved, plan?_eq read resolved⟩

theorem program_of_passed (plan : c.plan? = some p) (shader : c.fault? .shader = none)
    (compile : c.fault? .compile = none) :
    ∃ source x, Render.loadShader c.files p.shader = .ok source ∧
      compileFor (Shader.canonicalize source) = .ok x ∧ c.compiled? = some x := by
  rw [fault?_shader plan] at shader
  obtain ⟨source, loaded⟩ := faultOf_eq_none (Option.map_eq_none_iff.1 shader)
  have program := program?_eq plan loaded
  rw [fault?_compile program] at compile
  obtain ⟨x, compiled⟩ := faultOf_eq_none (Option.map_eq_none_iff.1 compile)
  exact ⟨source, x, loaded, compiled, compiled?_eq program compiled⟩

theorem encoder_of_passed (plan : c.plan? = some p) (frames : c.fault? .frames = none)
    (probe : c.fault? .probe = none) (settings : c.fault? .settings = none) :
    p.job.totalFrames ≠ 0 ∧ (Encoder.probe c.host c.files p.encoderProgram).1 = none ∧
      p.encoderConfig.validate = .ok () := by
  rw [fault?_frames plan] at frames
  rw [fault?_probe (probed?_eq plan)] at probe
  rw [fault?_settings plan] at settings
  obtain ⟨⟨⟩, accepted⟩ := faultOf_eq_none (Option.map_eq_none_iff.1 settings)
  refine ⟨fun none => ?_, Option.map_eq_none_iff.1 probe, accepted⟩
  rw [if_pos none] at frames
  cases frames

end Passed

/-- Each stage does only steps of its own kind. -/
theorem mem_stages_of_step {x : Step} (mem : x ∈ c.steps s) : s ∈ x.stages := by
  have device {s' after : Session} (mem : x ∈ requestsSince s' after) :
      ∃ request, x = .device request := by
    obtain ⟨request, -, rfl⟩ := List.mem_map.1 mem
    exact ⟨request, rfl⟩
  cases s with
  | probe =>
    obtain ⟨p, -, rfl⟩ : ∃ p, c.plan? = some p ∧ Step.probe p.encoderProgram = x := by
      simpa [steps] using mem
    simp [Step.stages]
  | session =>
    cases opened : c.opened? with
    | none => simp [steps, opened] at mem
    | some o =>
      obtain ⟨request, -, rfl⟩ : ∃ request ∈ o.2, Step.device request = x := by
        simpa [steps, opened] using mem
      simp [Step.stages]
  | draw =>
    simp only [steps] at mem
    split at mem
    · obtain ⟨request, rfl⟩ := device mem
      simp [Step.stages]
    · cases mem
  | encode =>
    simp only [steps] at mem
    split at mem
    · rcases List.mem_append.1 mem with mem | mem
      · obtain ⟨deed, -, rfl⟩ := List.mem_map.1 mem
        simp [Step.stages]
      · obtain ⟨request, rfl⟩ := device mem
        simp [Step.stages]
    · cases mem
  | _ => cases mem

end Call

/-! ### What comes before what -/

namespace Arguments

/-- There are three ways for a run to go on. -/
theorem stages_cases (a : Arguments) :
    (a.dumpCanonical = true ∧ a.stages = [.jobFile, .plan, .shader]) ∨
      (a.dumpCanonical = false ∧ a.stillExport.isSome = true ∧
        a.stages = [.jobFile, .plan, .shader, .compile, .session, .draw, .save]) ∨
      (a.dumpCanonical = false ∧ a.stillExport = none ∧
        a.stages = [.jobFile, .plan, .shader, .frames, .probe, .settings, .compile, .session,
          .encode]) := by
  unfold stages work
  cases dumped : a.dumpCanonical with
  | true => exact .inl ⟨rfl, rfl⟩
  | false =>
    cases still : a.stillExport with
    | some path => exact .inr (.inl ⟨rfl, rfl, rfl⟩)
    | none => exact .inr (.inr ⟨rfl, rfl, rfl⟩)

theorem nodup_stages (a : Arguments) : a.stages.Nodup := by
  rcases a.stages_cases with ⟨-, list⟩ | ⟨-, -, list⟩ | ⟨-, -, list⟩ <;> rw [list] <;> decide

variable {a : Arguments} {s : Stage}

/-- The stages before one that turns to a device. -/
theorem ahead_of_device (mem : s ∈ a.stages) (asks : s ∈ [Stage.session, .draw, .encode]) :
    a.dumpCanonical = false ∧ (∀ q ∈ [Stage.jobFile, .plan, .shader, .compile], q ∈ a.ahead s) ∧
      (a.stillExport = none → ∀ q ∈ [Stage.frames, .probe, .settings], q ∈ a.ahead s) := by
  unfold ahead
  rcases a.stages_cases with ⟨-, list⟩ | ⟨wanted, still, list⟩ | ⟨wanted, -, list⟩ <;>
    rw [list] at mem ⊢
  · have apart : ∀ q ∈ [Stage.jobFile, .plan, .shader], q ∉ [Stage.session, .draw, .encode] := by
      decide
    exact absurd asks (apart s mem)
  · refine ⟨wanted, ?_, fun none => ?_⟩
    · revert s
      decide
    · rw [none] at still
      cases still
  · refine ⟨wanted, ?_, fun _ => ?_⟩ <;> revert s <;> decide

theorem ahead_encode (mem : .encode ∈ a.stages) :
    a.stillExport = none ∧ a.ahead .encode =
      [.jobFile, .plan, .shader, .frames, .probe, .settings, .compile, .session] := by
  unfold ahead
  rcases a.stages_cases with ⟨-, list⟩ | ⟨-, -, list⟩ | ⟨-, still, list⟩ <;> rw [list] at mem ⊢
  · simp at mem
  · simp at mem
  · exact ⟨still, by decide⟩

/-- Where the program is only printed, no stage does anything outside. -/
theorem not_mem_stages_of_dump (dumped : a.dumpCanonical = true) (mem : s ∈ a.stages) (x : Step) :
    s ∉ x.stages := by
  have apart : ∀ q ∈ [Stage.jobFile, .plan, .shader],
      q ∉ [Stage.probe, .session, .draw, .encode] := by decide
  have outside : ∀ q ∈ x.stages, q ∈ [Stage.probe, .session, .draw, .encode] := by
    cases x <;> simp [Step.stages]
  rcases a.stages_cases with ⟨-, list⟩ | ⟨wanted, -⟩ | ⟨wanted, -⟩
  · rw [list] at mem
    exact fun belongs => apart s mem (outside s belongs)
  · cases dumped.symm.trans wanted
  · cases dumped.symm.trans wanted

/-- For a still only a device is turned to. -/
theorem isDevice_of_still (still : a.stillExport.isSome = true) (mem : s ∈ a.stages) {x : Step}
    (belongs : s ∈ x.stages) : ∃ request, x = .device request := by
  have apart : s ≠ .probe ∧ s ≠ .encode := by
    rcases a.stages_cases with ⟨-, list⟩ | ⟨-, -, list⟩ | ⟨-, none, -⟩
    · rw [list] at mem
      clear belongs
      revert s
      decide
    · rw [list] at mem
      clear belongs
      revert s
      decide
    · rw [none] at still
      cases still
  cases x with
  | device request => exact ⟨request, rfl⟩
  | probe program => exact absurd (List.mem_singleton.1 belongs) apart.1
  | encoder deed => exact absurd (List.mem_singleton.1 belongs) apart.2

/-- Besides the probe, only the last stage of a run may change a file. -/
theorem not_mem_ahead (mem : s ∈ a.stages) : .save ∉ a.ahead s ∧ .encode ∉ a.ahead s := by
  unfold ahead
  rcases a.stages_cases with ⟨-, list⟩ | ⟨-, -, list⟩ | ⟨-, -, list⟩ <;> rw [list] at mem ⊢ <;>
    revert s <;> decide

end Arguments

namespace Call

variable {c : Call σ} {s : Stage} {before later : List Step} {x : Step}

/-- What a run does outside, it does at a stage of its own, and all stages ahead of it have
passed. -/
theorem exists_stage_report (split : c.report.steps = before ++ x :: later) :
    ∃ s ∈ c.arguments.stages, s ∈ x.stages ∧ (∀ q ∈ c.arguments.ahead s, c.fault? q = none) ∧
      (c.arguments.ahead s).flatMap c.steps <+: before := by
  have course : (c.follow c.arguments.stages c.files).steps = before ++ x :: later := by
    rw [← c.course_report]
    exact split
  obtain ⟨s, mem, passed, own, others, steps, rfl⟩ :=
    exists_stage c.arguments.nodup_stages course
  have own : x ∈ c.steps s := by simp [steps]
  exact ⟨s, mem, mem_stages_of_step own, passed, List.prefix_append _ _⟩

/-- A stage that turns to a device has everything it needs. -/
theorem exists_ready (mem : s ∈ c.arguments.stages) (asks : s ∈ [Stage.session, .draw, .encode])
    (passed : ∀ q ∈ c.arguments.ahead s, c.fault? q = none) :
    ∃ p x, c.Ready p x ∧ c.plan? = some p ∧ c.compiled? = some x := by
  obtain ⟨wanted, made, video⟩ := Arguments.ahead_of_device mem asks
  have ahead (q : Stage) (some : q ∈ [Stage.jobFile, .plan, .shader, .compile]) :
      c.fault? q = none := passed q (made q some)
  obtain ⟨contents, p, loaded, resolved, plan⟩ :=
    plan_of_passed (ahead .jobFile (by simp)) (ahead .plan (by simp))
  obtain ⟨source, x, read, accepted, compiled⟩ :=
    program_of_passed plan (ahead .shader (by simp)) (ahead .compile (by simp))
  refine ⟨p, x, ⟨wanted, ⟨contents, loaded, resolved⟩, ⟨source, read, accepted⟩, fun none => ?_⟩,
    plan, compiled⟩
  have ahead (q : Stage) (some : q ∈ [Stage.frames, .probe, .settings]) : c.fault? q = .none :=
    passed q (video none q some)
  exact encoder_of_passed plan (ahead .frames (by simp)) (ahead .probe (by simp))
    (ahead .settings (by simp))

theorem ready_of_device {request : Request}
    (split : c.report.steps = before ++ .device request :: later) :
    ∃ p x, c.Ready p x ∧
      (c.arguments.stillExport = none → .probe p.encoderProgram ∈ before) := by
  obtain ⟨s, mem, asks, passed, prefixed⟩ := exists_stage_report split
  obtain ⟨p, x, ready, plan, -⟩ := exists_ready mem asks passed
  refine ⟨p, x, ready, fun none => prefixed.subset (List.mem_flatMap.2 ⟨.probe, ?_, ?_⟩)⟩
  · obtain ⟨-, -, video⟩ := Arguments.ahead_of_device mem asks
    exact video none .probe (by simp)
  · rw [steps_probe plan]
    exact List.mem_singleton_self _

theorem ready_of_encoder {deed : Deed}
    (split : c.report.steps = before ++ .encoder deed :: later) :
    c.arguments.stillExport = none ∧ ∃ p x s, c.Ready p x ∧
      Session.openFor c.adapter p.device x p.job 0 = (.ok s, s.requests) ∧
      .probe p.encoderProgram :: s.requests.map .device <+: before := by
  obtain ⟨s, mem, belongs, passed, prefixed⟩ := exists_stage_report split
  obtain rfl : s = .encode := List.mem_singleton.1 belongs
  obtain ⟨still, ahead⟩ := Arguments.ahead_encode mem
  obtain ⟨p, x, ready, plan, compiled⟩ := exists_ready mem (by simp) passed
  refine ⟨still, p, x, ?_⟩
  have opened := opened?_eq plan compiled
  have opens : c.fault? .session = none := passed .session (by simp [ahead])
  rw [fault?_session opened] at opens
  rcases opening : Session.openFor c.adapter p.device x p.job 0 with ⟨fault | s, asked⟩
  · rw [opening] at opens
    cases opens
  · obtain rfl := requests_openFor opening
    rw [opening] at opened
    have done : (c.arguments.ahead .encode).flatMap c.steps =
        c.steps .probe ++ c.steps .session := by
      simp [ahead, steps]
    rw [done, steps_probe plan, steps_session opened] at prefixed
    exact ⟨s, ready, rfl, prefixed⟩

/-- What a stage does that fails is in the report. -/
theorem steps_of_failing (failing : c.failing? = some s) :
    ∀ x ∈ c.steps s, x ∈ c.report.steps := by
  have course := congrArg Course.steps c.course_report
  have steps : c.report.steps = _ := course.trans (follow_of_failing failing).1
  rw [steps]
  exact fun x mem => List.mem_append_right _ mem

theorem probed?_of_quiet {probed : Option Encoder.Fault × Tree} (quiet : c.Quiet)
    (made : c.probed? = some probed) : probed.2 = c.files := by
  obtain ⟨p, -, rfl⟩ := Option.map_eq_some_iff.1 made
  unfold Encoder.probe
  split
  · rfl
  · next ending ended => exact quiet _ ending ended

/-- A run whose probe writes nothing keeps all files until a still is saved or a video encoded. -/
theorem files_of_failing (quiet : c.Quiet) (failing : c.failing? = some s) :
    c.report.files = c.after s c.files ∧
      (s ≠ .save → s ≠ .encode → c.after s c.files = c.files) := by
  have kept (q : Stage) (save : q ≠ .save) (encode : q ≠ .encode) :
      c.after q c.files = c.files := by
    cases q with
    | save => exact absurd rfl save
    | encode => exact absurd rfl encode
    | probe =>
      cases made : c.probed? with
      | none => simp [after, made]
      | some probed => simpa [after, made] using probed?_of_quiet quiet made
    | _ => rfl
  obtain ⟨save, encode⟩ := Arguments.not_mem_ahead (List.mem_of_find?_eq_some failing)
  have course := congrArg Course.files c.course_report
  refine ⟨course.trans ((follow_of_failing failing).2 fun q mem => ?_), kept s⟩
  exact kept q (fun same => save (same ▸ mem)) fun same => encode (same ▸ mem)

/-- An encode that fails before there is a program makes at most directories above the output. -/
theorem files_of_encode (quiet : c.Quiet) (failing : c.failing? = some .encode)
    (idle : ∀ deed, .encoder deed ∉ c.report.steps) :
    ∃ p, c.plan? = some p ∧ c.files.Grows (·.Above p.job.output) c.report.files := by
  have failed := List.find?_some failing
  cases plan : c.plan? with
  | none => simp [fault?, plan] at failed
  | some p =>
    cases made : c.probed? with
    | none => simp [fault?, plan, encoded?, made] at failed
    | some probed =>
      cases session : c.session? with
      | none => simp [fault?, plan, encoded?, made, session] at failed
      | some s =>
        have encoded := encoded?_eq plan made session
        rw [probed?_of_quiet quiet made] at encoded
        have none : (Encoder.run c.host (.ofRenderer Session.renderer) p.encoderConfig
            (.start s (.ofJob p.job)) c.files).deeds = [] := by
          refine List.eq_nil_iff_forall_not_mem.2 fun deed mem => idle deed ?_
          refine steps_of_failing failing _ ?_
          rw [steps_encode session encoded]
          exact List.mem_append_left _ (List.mem_map_of_mem mem)
        have left : c.after .encode c.files = (Encoder.run c.host (.ofRenderer Session.renderer)
            p.encoderConfig (.start s (.ofJob p.job)) c.files).files := by simp [after, encoded]
        refine ⟨p, rfl, ?_⟩
        rw [(files_of_failing quiet failing).1, left]
        exact Encoder.run_grows none

end Call

/-- The fault of a run is that of the first of its stages that fails.  A device is turned to only
when the plan, the shader and its program are there and, for a video, there are frames, the encoder
has answered the probe and its settings are accepted; an encoder is started only behind a session
that is open.  Where the program is only printed, nothing outside is touched, and for a still no
encoder is.  If the probe writes nothing, a run that fails keeps all files until a still is saved or
a video encoded, and an encoder that cannot be started leaves at most directories. -/
theorem run_stages (host : Host σ) (adapter : Option Adapter) (a : Arguments) (files : Tree) :
    let c : Call σ := ⟨host, adapter, a, files⟩
    let r := run host adapter a files
    r.fault = c.failing?.bind c.fault? ∧
      (∀ before request later, r.steps = before ++ .device request :: later →
        ∃ p x, c.Ready p x ∧ (a.stillExport = none → .probe p.encoderProgram ∈ before)) ∧
      (∀ before deed later, r.steps = before ++ .encoder deed :: later →
        a.stillExport = none ∧ ∃ p x s, c.Ready p x ∧
          Session.openFor adapter p.device x p.job 0 = (.ok s, s.requests) ∧
          .probe p.encoderProgram :: s.requests.map .device <+: before) ∧
      (a.dumpCanonical = true → r.steps = []) ∧
      (a.stillExport.isSome = true → ∀ x ∈ r.steps, ∃ request, x = .device request) ∧
      (c.Quiet → ∀ s, c.failing? = some s →
        (s ≠ .save → s ≠ .encode → r.files = files) ∧
        (s = .encode → (∀ deed, .encoder deed ∉ r.steps) →
          ∃ p, c.plan? = some p ∧ files.Grows (·.Above p.job.output) r.files)) := by
  intro c r
  have own {x : Step} (mem : x ∈ r.steps) : ∃ s ∈ a.stages, s ∈ x.stages := by
    obtain ⟨before, later, split⟩ := List.append_of_mem mem
    obtain ⟨s, mem, belongs, -⟩ := Call.exists_stage_report (c := c) split
    exact ⟨s, mem, belongs⟩
  refine ⟨?_, fun before request later split => Call.ready_of_device (c := c) split,
    fun before deed later split => Call.ready_of_encoder (c := c) split, fun dumped => ?_,
    fun still x mem => ?_, fun quiet s failing => ⟨fun save encode => ?_, ?_⟩⟩
  · exact (congrArg Course.fault c.course_report).trans (c.fault_follow a.stages files)
  · refine List.eq_nil_iff_forall_not_mem.2 fun x mem => ?_
    obtain ⟨s, mem, belongs⟩ := own mem
    exact Arguments.not_mem_stages_of_dump dumped mem x belongs
  · obtain ⟨s, mem, belongs⟩ := own mem
    exact Arguments.isDevice_of_still still mem belongs
  · obtain ⟨left, kept⟩ := Call.files_of_failing (c := c) quiet failing
    exact left.trans (kept save encode)
  · rintro rfl idle
    exact Call.files_of_encode (c := c) quiet failing idle

/-- The files of a program that draws nothing. -/
def blankFiles : Tree :=
  ⟨[([['s']], .file (.bytes (Text.encode "void main() {}".toList)) false)]⟩

def blankArguments (width : Option UInt32) : Arguments :=
  { Arguments.empty with shader := some ⟨['s']⟩, width }

def blankHost : Host Nat := .quitting 0 ⟨0, [], blankFiles⟩

theorem quiet_blank {adapter : Option Adapter} {a : Arguments} :
    Call.Quiet ⟨blankHost, adapter, a, blankFiles⟩ := by
  rintro program ending ran
  obtain rfl := Except.ok.inj ran
  rfl

theorem steps_blank : (run blankHost none (blankArguments none) blankFiles).steps =
    [.probe "ffmpeg", .device (.adapter ⟨.default, false⟩)] := by decide +kernel

theorem failing?_blank :
    Call.failing? ⟨blankHost, none, blankArguments (some 3), blankFiles⟩ = some .settings := by
  decide +kernel

/-- A video is wanted where no adapter is, and one whose sides are odd. -/
theorem run_stages_refused :
    (∃ p x, Call.Ready ⟨blankHost, none, blankArguments none, blankFiles⟩ p x) ∧
      (run blankHost none (blankArguments (some 3)) blankFiles).files = blankFiles := by
  obtain ⟨-, device, -⟩ := run_stages blankHost none (blankArguments none) blankFiles
  obtain ⟨-, -, -, -, -, kept⟩ := run_stages blankHost none (blankArguments (some 3)) blankFiles
  obtain ⟨p, x, ready, -⟩ := device [.probe "ffmpeg"] _ [] steps_blank
  exact ⟨⟨p, x, ready⟩, (kept quiet_blank .settings failing?_blank).1 (by simp) (by simp)⟩

/-- The shader itself stands where the directory of the output would be, and the path to it leads
through a directory that is not there. -/
def strayArguments : Arguments :=
  { blankArguments none with output := some ⟨"d/../s/o".toList⟩ }

/-- The output cannot be prepared, so no encoder is started; but a directory has been made. -/
theorem run_leaves_directory :
    let c : Call Nat := ⟨blankHost, some (.testCard 8192 none none), strayArguments, blankFiles⟩
    c.Quiet ∧ (c.report.fault matches some (.encode _ (.output _ _))) = true ∧
      (∀ deed, .encoder deed ∉ c.report.steps) ∧
      c.files.find? [['d']] = none ∧ c.report.files.find? [['d']] = some .directory := by
  intro c
  obtain ⟨failed, outside, made⟩ : (c.report.fault matches some (.encode _ (.output _ _))) = true ∧
      (∀ x ∈ c.report.steps, (x matches .encoder _) = false) ∧
      c.report.files.find? [['d']] = some .directory := by decide +kernel
  refine ⟨quiet_blank, failed, fun deed mem => ?_, by decide, made⟩
  cases outside _ mem

end ShaderFilm.CommandLine
