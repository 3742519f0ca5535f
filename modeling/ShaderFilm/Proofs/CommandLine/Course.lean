import ShaderFilm.CommandLine.Run
import ShaderFilm.Proofs.Device.Uniform
import ShaderFilm.Proofs.Encoder.Output

/-!
# The stages of a run

What a stage of a run needs, what it does outside and how it fails depends on what earlier stages
made (`Call.fault?`, `Call.steps`, `Call.after`).  A course follows stages in order, up to the first
that fails; what it does outside it does at one of them, when those before it have passed
(`exists_stage`).  `course_report` says that a run is the course of its stages.
-/

namespace ShaderFilm.CommandLine

open ShaderFilm.Device (Adapter Request Session)
open ShaderFilm.Encoder (Host Outcome)
open ShaderFilm.Files (Path Tree)
open ShaderFilm.JobFile (Contents)
open ShaderFilm.Render (Pixels Sequence)
open ShaderFilm.Shader (Canonical Compiled)

variable {σ : Type}

/-- Something that a run does, and that may fail. -/
inductive Stage where
  | jobFile
  | plan
  | shader
  | frames
  | probe
  | settings
  | compile
  | session
  | draw
  | save
  | encode
  deriving DecidableEq

/-- What a run does with the shader, in order. -/
def Arguments.work (a : Arguments) : List Stage :=
  if a.dumpCanonical then []
  else if a.stillExport.isSome then [.compile, .session, .draw, .save]
  else [.frames, .probe, .settings, .compile, .session, .encode]

/-- The stages of a run, in order. -/
def Arguments.stages (a : Arguments) : List Stage := .jobFile :: .plan :: .shader :: a.work

/-! ### What the stages make -/

/-- A run that is asked for. -/
structure Call (σ : Type) where
  host : Host σ
  adapter : Option Adapter
  arguments : Arguments
  files : Tree

/-- The fault of what may have failed. -/
def faultOf {ε α : Type} : Except ε α → Option ε
  | .ok _ => none
  | .error fault => some fault

@[simp] theorem faultOf_ok {ε α : Type} (a : α) : faultOf (.ok a : Except ε α) = none := rfl

@[simp] theorem faultOf_error {ε α : Type} (fault : ε) :
    faultOf (.error fault : Except ε α) = some fault := rfl

theorem faultOf_eq_none {ε α : Type} {x : Except ε α} (passed : faultOf x = none) :
    ∃ a, x = .ok a := by
  cases x with
  | ok a => exact ⟨a, rfl⟩
  | error fault => cases passed

namespace Call

variable (c : Call σ)

def report : Report := run c.host c.adapter c.arguments c.files

def contents? : Option Contents := (loadJobFile c.arguments c.files).toOption

def plan? : Option Plan := c.contents?.bind fun x => (Plan.resolve c.arguments x).toOption

def program? : Option Canonical :=
  c.plan?.bind fun p => (Render.loadShader c.files p.shader).toOption.map Shader.canonicalize

def compiled? : Option Compiled := c.program?.bind fun x => (compileFor x).toOption

/-- The probe of the encoder: its fault, and the files that it leaves. -/
def probed? : Option (Option Encoder.Fault × Tree) :=
  c.plan?.map fun p => Encoder.probe c.host c.files p.encoderProgram

/-- The opening of a session, with what is asked of the device. -/
def opened? : Option (Except Render.Fault Session × List Request) :=
  c.plan?.bind fun p => c.compiled?.map fun x => Session.openFor c.adapter p.device x p.job 0

def session? : Option Session := c.opened?.bind (·.1.toOption)

/-- The image of a still, with the session after the draw. -/
def drawn? : Option (Except Render.Fault Pixels × Session) :=
  c.plan?.bind fun p => c.session?.map (·.draw p.job.startTime.toFloat32)

/-- The file of a still: the fault of saving it, and the files after it. -/
def saved? : Option (Option Render.Fault × Tree) :=
  c.arguments.stillExport.bind fun path => c.drawn?.bind fun d => d.1.toOption.map fun pixels =>
    Device.savePicture pixels path c.files

def encoded? : Option (Outcome (Sequence Session)) :=
  c.plan?.bind fun p => c.probed?.bind fun probed => c.session?.map fun s =>
    Encoder.run c.host (.ofRenderer Session.renderer) p.encoderConfig (.start s (.ofJob p.job))
      probed.2

/-- Why a stage fails, if it does; a stage that lacks what it needs has not begun. -/
def fault? : Stage → Option Fault
  | .jobFile => faultOf (loadJobFile c.arguments c.files)
  | .plan => c.contents?.bind fun x => (faultOf (Plan.resolve c.arguments x)).map .plan
  | .shader => c.plan?.bind fun p => (faultOf (Render.loadShader c.files p.shader)).map .render
  | .frames => c.plan?.bind fun p =>
    if p.job.totalFrames = 0 then some (.noFrames p.job.duration p.job.fps) else none
  | .probe => c.probed?.bind fun probed => probed.1.map .encoder
  | .settings => c.plan?.bind fun p =>
    (faultOf p.encoderConfig.validate).map fun fault => .encoder (.invalidConfig fault)
  | .compile => c.program?.bind fun x => (faultOf (compileFor x)).map .render
  | .session => c.opened?.bind fun o => (faultOf o.1).map .render
  | .draw => c.drawn?.bind fun d => (faultOf d.1).map .render
  | .save => c.saved?.bind fun saved => saved.1.map .render
  | .encode => c.plan?.bind fun p => c.encoded?.bind fun o =>
    (faultOf o.result).map (.encode p.job.output)

/-- The requests of a session that was open already. -/
def requestsSince (s after : Session) : List Step :=
  (after.requests.drop s.requests.length).map .device

/-- What a stage does outside. -/
def steps : Stage → List Step
  | .probe => (c.plan?.map fun p => Step.probe p.encoderProgram).toList
  | .session => c.opened?.elim [] fun o => o.2.map .device
  | .draw =>
    match c.session?, c.drawn? with
    | some s, some d => requestsSince s d.2
    | _, _ => []
  | .encode =>
    match c.session?, c.encoded? with
    | some s, some o => o.deeds.map .encoder ++ requestsSince s o.source.renderer
    | _, _ => []
  | _ => []

/-- The files after a stage. -/
def after (s : Stage) (files : Tree) : Tree :=
  match s with
  | .probe => c.probed?.elim files (·.2)
  | .save => c.saved?.elim files (·.2)
  | .encode => c.encoded?.elim files (·.files)
  | _ => files

/-- The first stage that fails. -/
def failing? : Option Stage := c.arguments.stages.find? fun s => (c.fault? s).isSome

end Call

/-! ### Courses -/

/-- What a report says of the course of a run. -/
structure Course where
  fault : Option Fault
  steps : List Step
  files : Tree

def Report.course (r : Report) : Course := ⟨r.fault, r.steps, r.files⟩

namespace Call

variable (c : Call σ)

/-- Follows stages up to the first that fails. -/
def follow : List Stage → Tree → Course
  | [], files => ⟨none, [], files⟩
  | s :: rest, files =>
    match c.fault? s with
    | some fault => ⟨some fault, c.steps s, c.after s files⟩
    | none =>
      let others := follow rest (c.after s files)
      ⟨others.fault, c.steps s ++ others.steps, others.files⟩

variable {c} {s : Stage} {rest : List Stage} {files : Tree}

theorem follow_of_fault {fault : Fault} (failed : c.fault? s = some fault) :
    c.follow (s :: rest) files = ⟨some fault, c.steps s, c.after s files⟩ := by
  rw [follow, failed]

theorem follow_of_pass (passed : c.fault? s = none) :
    c.follow (s :: rest) files =
      ⟨(c.follow rest (c.after s files)).fault,
        c.steps s ++ (c.follow rest (c.after s files)).steps,
        (c.follow rest (c.after s files)).files⟩ := by
  rw [follow, passed]

/-- A stage that does nothing outside and passes. -/
theorem follow_of_silent (passed : c.fault? s = none) (silent : c.steps s = [])
    (kept : c.after s files = files) : c.follow (s :: rest) files = c.follow rest files := by
  rw [follow_of_pass passed, silent, kept, List.nil_append]

variable (c) in
/-- The fault of a course is that of its first stage that fails. -/
theorem fault_follow (stages : List Stage) (files : Tree) :
    (c.follow stages files).fault =
      (stages.find? fun s => (c.fault? s).isSome).bind c.fault? := by
  induction stages generalizing files with
  | nil => rfl
  | cons s rest ih =>
    cases failed : c.fault? s with
    | some fault =>
      rw [follow_of_fault failed, List.find?_cons_of_pos (by rw [failed]; rfl)]
      exact failed.symm
    | none =>
      rw [follow_of_pass failed, List.find?_cons_of_neg (by rw [failed]; simp)]
      exact ih _

/-- An element of two lists in a row is one of the first or one of the second. -/
theorem split_append {α : Type} {first second before later : List α} {x : α}
    (split : first ++ second = before ++ x :: later) :
    (∃ others, first = before ++ x :: others) ∨
      ∃ others, before = first ++ others ∧ second = others ++ x :: later := by
  rcases List.append_eq_append_iff.1 split with ⟨others, ahead, rest⟩ | ⟨others, own, rest⟩
  · exact .inr ⟨others, ahead, rest⟩
  · rcases List.cons_eq_append_iff.1 rest with ⟨rfl, rest⟩ | ⟨others, rfl, -⟩
    · exact .inr ⟨[], by simp [own], rest.symm⟩
    · exact .inl ⟨others, own⟩

/-- Whatever a course does outside, it does at one of its stages, when those before it have passed
and have done what they do. -/
theorem exists_stage {stages : List Stage} (distinct : stages.Nodup) {before later : List Step}
    {x : Step} (split : (c.follow stages files).steps = before ++ x :: later) :
    ∃ s ∈ stages, (∀ q ∈ stages.takeWhile (· ≠ s), c.fault? q = none) ∧
      ∃ own others, c.steps s = own ++ x :: others ∧
        before = (stages.takeWhile (· ≠ s)).flatMap c.steps ++ own := by
  induction stages generalizing files before with
  | nil => simp [follow] at split
  | cons s rest ih =>
    obtain ⟨fresh, distinct⟩ := List.nodup_cons.1 distinct
    have here (others : List Step) (own : c.steps s = before ++ x :: others) : ∃ t ∈ s :: rest,
        (∀ q ∈ (s :: rest).takeWhile (· ≠ t), c.fault? q = none) ∧
          ∃ own others, c.steps t = own ++ x :: others ∧
            before = ((s :: rest).takeWhile (· ≠ t)).flatMap c.steps ++ own :=
      ⟨s, List.mem_cons_self, by simp, before, others, own, by simp⟩
    cases failed : c.fault? s with
    | some fault =>
      rw [follow_of_fault failed] at split
      exact here later split
    | none =>
      rw [follow_of_pass failed] at split
      rcases split_append split with ⟨others, own⟩ | ⟨more, rfl, behind⟩
      · exact here others own
      · obtain ⟨t, mem, passed, own, others, steps, rfl⟩ := ih distinct behind
        have differ : s ≠ t := fun same => fresh (same ▸ mem)
        have ahead : (s :: rest).takeWhile (· ≠ t) = s :: rest.takeWhile (· ≠ t) :=
          List.takeWhile_cons_of_pos (by simpa using differ)
        refine ⟨t, List.mem_cons_of_mem _ mem, ?_, own, others, steps, ?_⟩
        · rw [ahead]
          exact List.forall_mem_cons.2 ⟨failed, passed⟩
        · rw [ahead, List.flatMap_cons, List.append_assoc]

/-- A course that fails does what its stages do up to the one that fails. -/
theorem follow_of_failing {stages : List Stage} {files : Tree} {s : Stage}
    (failing : stages.find? (fun q => (c.fault? q).isSome) = some s) :
    (c.follow stages files).steps = (stages.takeWhile (· ≠ s)).flatMap c.steps ++ c.steps s ∧
      ((∀ q ∈ stages.takeWhile (· ≠ s), c.after q files = files) →
        (c.follow stages files).files = c.after s files) := by
  induction stages generalizing files with
  | nil => cases failing
  | cons q rest ih =>
    cases failed : c.fault? q with
    | some fault =>
      rw [List.find?_cons_of_pos (by rw [failed]; rfl)] at failing
      obtain rfl := Option.some.inj failing
      rw [follow_of_fault failed]
      exact ⟨by simp, fun _ => rfl⟩
    | none =>
      have differ : q ≠ s := by
        rintro rfl
        have some := List.find?_some failing
        rw [failed] at some
        cases some
      rw [List.find?_cons_of_neg (by rw [failed]; simp)] at failing
      obtain ⟨steps, left⟩ := @ih (c.after q files) failing
      rw [follow_of_pass failed, List.takeWhile_cons_of_pos (by simpa using differ)]
      refine ⟨by rw [steps, List.flatMap_cons, List.append_assoc], fun ahead => ?_⟩
      obtain ⟨kept, ahead⟩ := List.forall_mem_cons.1 ahead
      rw [kept] at left ⊢
      exact left ahead

/-! #### What a stage makes -/

section Made

variable {contents : Contents} {p : Plan} {source : List Char} {program : Canonical} {x : Compiled}
  {path : Path} {s : Session} {asked : List Request}

theorem contents?_eq (loaded : loadJobFile c.arguments c.files = .ok contents) :
    c.contents? = some contents := by
  rw [contents?, loaded]
  rfl

theorem plan?_eq (read : c.contents? = some contents)
    (resolved : Plan.resolve c.arguments contents = .ok p) : c.plan? = some p := by
  rw [plan?, read, Option.bind_some, resolved]
  rfl

theorem program?_eq (plan : c.plan? = some p)
    (loaded : Render.loadShader c.files p.shader = .ok source) :
    c.program? = some (Shader.canonicalize source) := by
  rw [program?, plan, Option.bind_some, loaded]
  rfl

theorem compiled?_eq (loaded : c.program? = some program) (compiled : compileFor program = .ok x) :
    c.compiled? = some x := by
  rw [compiled?, loaded, Option.bind_some, compiled]
  rfl

theorem probed?_eq (plan : c.plan? = some p) :
    c.probed? = some (Encoder.probe c.host c.files p.encoderProgram) := by
  rw [probed?, plan, Option.map_some]

theorem opened?_eq (plan : c.plan? = some p) (compiled : c.compiled? = some x) :
    c.opened? = some (Session.openFor c.adapter p.device x p.job 0) := by
  rw [opened?, plan, Option.bind_some, compiled, Option.map_some]

theorem session?_eq (opened : c.opened? = some (.ok s, asked)) : c.session? = some s := by
  rw [session?, opened]
  rfl

theorem drawn?_eq (plan : c.plan? = some p) (session : c.session? = some s) :
    c.drawn? = some (s.draw p.job.startTime.toFloat32) := by
  rw [drawn?, plan, Option.bind_some, session, Option.map_some]

theorem saved?_eq {pixels : Pixels} (still : c.arguments.stillExport = some path)
    (drawn : c.drawn? = some (.ok pixels, s)) :
    c.saved? = some (Device.savePicture pixels path c.files) := by
  rw [saved?, still, Option.bind_some, drawn]
  rfl

theorem encoded?_eq {probed : Option Encoder.Fault × Tree} (plan : c.plan? = some p)
    (probe : c.probed? = some probed) (session : c.session? = some s) :
    c.encoded? = some (Encoder.run c.host (.ofRenderer Session.renderer) p.encoderConfig
      (.start s (.ofJob p.job)) probed.2) := by
  rw [encoded?, plan, Option.bind_some, probe, Option.bind_some, session, Option.map_some]

end Made

/-! #### How a stage fails -/

section Fault

variable {contents : Contents} {p : Plan} {program : Canonical}

theorem fault?_plan (read : c.contents? = some contents) :
    c.fault? .plan = (faultOf (Plan.resolve c.arguments contents)).map .plan := by
  rw [fault?, read, Option.bind_some]

theorem fault?_shader (plan : c.plan? = some p) :
    c.fault? .shader = (faultOf (Render.loadShader c.files p.shader)).map .render := by
  rw [fault?, plan, Option.bind_some]

theorem fault?_frames (plan : c.plan? = some p) :
    c.fault? .frames =
      if p.job.totalFrames = 0 then some (.noFrames p.job.duration p.job.fps) else none := by
  rw [fault?, plan, Option.bind_some]

theorem fault?_probe {probed : Option Encoder.Fault × Tree} (made : c.probed? = some probed) :
    c.fault? .probe = probed.1.map .encoder := by
  rw [fault?, made, Option.bind_some]

theorem fault?_settings (plan : c.plan? = some p) :
    c.fault? .settings =
      (faultOf p.encoderConfig.validate).map fun fault => .encoder (.invalidConfig fault) := by
  rw [fault?, plan, Option.bind_some]

theorem fault?_compile (loaded : c.program? = some program) :
    c.fault? .compile = (faultOf (compileFor program)).map .render := by
  rw [fault?, loaded, Option.bind_some]

theorem fault?_session {result : Except Render.Fault Session × List Request}
    (opened : c.opened? = some result) :
    c.fault? .session = (faultOf result.1).map .render := by
  rw [fault?, opened, Option.bind_some]

theorem fault?_draw {result : Except Render.Fault Pixels × Session}
    (drawn : c.drawn? = some result) : c.fault? .draw = (faultOf result.1).map .render := by
  rw [fault?, drawn, Option.bind_some]

theorem fault?_save {result : Option Render.Fault × Tree} (saved : c.saved? = some result) :
    c.fault? .save = result.1.map .render := by
  rw [fault?, saved, Option.bind_some]

theorem fault?_encode {o : Outcome (Sequence Session)} (plan : c.plan? = some p)
    (encoded : c.encoded? = some o) :
    c.fault? .encode = (faultOf o.result).map (.encode p.job.output) := by
  rw [fault?, plan, Option.bind_some, encoded, Option.bind_some]

end Fault

/-! #### What a stage does outside -/

section Steps

variable {p : Plan} {s : Session}

theorem steps_probe (plan : c.plan? = some p) : c.steps .probe = [.probe p.encoderProgram] := by
  rw [steps, plan]
  rfl

theorem steps_session {result : Except Render.Fault Session × List Request}
    (opened : c.opened? = some result) : c.steps .session = result.2.map .device := by
  rw [steps, opened]
  rfl

theorem steps_draw {result : Except Render.Fault Pixels × Session} (session : c.session? = some s)
    (drawn : c.drawn? = some result) : c.steps .draw = requestsSince s result.2 := by
  simp only [steps, session, drawn]

theorem steps_encode {o : Outcome (Sequence Session)} (session : c.session? = some s)
    (encoded : c.encoded? = some o) :
    c.steps .encode = o.deeds.map .encoder ++ requestsSince s o.source.renderer := by
  simp only [steps, session, encoded]

end Steps

/-! ### Runs -/

theorem requests_openFor {adapter : Option Adapter} {options : Device.Options} {x : Compiled}
    {job : Render.Job} {s : Session} {asked : List Request}
    (opened : Session.openFor adapter options x job 0 = (.ok s, asked)) : s.requests = asked := by
  unfold Session.openFor at opened
  split at opened
  · simp at opened
  · obtain ⟨-, -, -, requests, -⟩ := Session.open_eq_ok opened
    exact requests

theorem requests_since {s after : Session} (kept : s.requests <+: after.requests) :
    s.requests.map Step.device ++ requestsSince s after = after.requests.map .device := by
  rw [requestsSince, ← List.map_append, List.prefix_iff_eq_append.1 kept]

section Follow

variable {p : Plan} {program : Canonical} {s : Session}

/-- A program is compiled, and a session opened for it, in the same way whatever comes next. -/
theorem follow_opening (plan : c.plan? = some p) (loaded : c.program? = some program)
    (rest : List Stage) (files : Tree) :
    (∃ fault, compileFor program = .error fault ∧
        c.follow (.compile :: .session :: rest) files = ⟨some (.render fault), [], files⟩) ∨
      (∃ x fault asked, compileFor program = .ok x ∧
        Session.openFor c.adapter p.device x p.job 0 = (.error fault, asked) ∧
        c.follow (.compile :: .session :: rest) files =
          ⟨some (.render fault), asked.map .device, files⟩) ∨
      ∃ x s, compileFor program = .ok x ∧
        Session.openFor c.adapter p.device x p.job 0 = (.ok s, s.requests) ∧
        c.session? = some s ∧
        c.follow (.compile :: .session :: rest) files =
          ⟨(c.follow rest files).fault, s.requests.map .device ++ (c.follow rest files).steps,
            (c.follow rest files).files⟩ := by
  have compile := fault?_compile loaded
  cases compiled : compileFor program with
  | error fault =>
    rw [compiled] at compile
    exact .inl ⟨fault, rfl, follow_of_fault compile⟩
  | ok x =>
    have opened := opened?_eq plan (compiled?_eq loaded compiled)
    rw [compiled] at compile
    rw [follow_of_silent compile rfl rfl]
    rcases opening : Session.openFor c.adapter p.device x p.job 0 with ⟨fault | s, asked⟩
    · rw [opening] at opened
      refine .inr (.inl ⟨x, fault, asked, rfl, opening, ?_⟩)
      rw [follow_of_fault (fault?_session opened), steps_session opened]
      rfl
    · rw [opening] at opened
      obtain rfl := requests_openFor opening
      refine .inr (.inr ⟨x, s, rfl, opening, session?_eq opened, ?_⟩)
      rw [follow_of_pass (fault?_session opened), steps_session opened]
      rfl

theorem follow_draw {image : Except Render.Fault Pixels} {last : Session}
    (session : c.session? = some s) (drawn : c.drawn? = some (image, last)) :
    c.follow [.draw, .save] files =
      match image with
      | .error fault => ⟨some (.render fault), requestsSince s last, files⟩
      | .ok _ => ⟨(c.follow [.save] files).fault,
        requestsSince s last ++ (c.follow [.save] files).steps,
        (c.follow [.save] files).files⟩ := by
  cases image with
  | error fault =>
    rw [follow_of_fault (fault?_draw drawn), steps_draw session drawn]
    rfl
  | ok pixels =>
    rw [follow_of_pass (fault?_draw drawn), steps_draw session drawn]
    rfl

theorem follow_save {fault : Option Render.Fault} {left : Tree}
    (saved : c.saved? = some (fault, left)) :
    c.follow [.save] files = ⟨fault.map .render, [], left⟩ := by
  have kept : c.after .save files = left := by simp only [after, saved, Option.elim_some]
  cases fault with
  | none =>
    rw [follow_of_pass (fault?_save saved), kept]
    rfl
  | some fault =>
    rw [follow_of_fault (fault?_save saved), kept]
    rfl

theorem follow_encode {o : Outcome (Sequence Session)} (plan : c.plan? = some p)
    (session : c.session? = some s) (encoded : c.encoded? = some o) :
    c.follow [.encode] files = ⟨(faultOf o.result).map (.encode p.job.output),
      o.deeds.map .encoder ++ requestsSince s o.source.renderer, o.files⟩ := by
  have kept : c.after .encode files = o.files := by simp only [after, encoded, Option.elim_some]
  have encode := fault?_encode plan encoded
  cases result : o.result with
  | ok summary =>
    rw [result] at encode
    rw [follow_of_pass encode, kept, steps_encode session encoded, follow, List.append_nil]
    rfl
  | error fault =>
    rw [result] at encode
    rw [follow_of_fault encode, kept, steps_encode session encoded]
    rfl

end Follow

/-- The course of a still, once it has its program. -/
theorem course_runStill {p : Plan} {program : Canonical} {path : Path}
    (plan : c.plan? = some p) (loaded : c.program? = some program)
    (still : c.arguments.stillExport = some path) :
    (runStill c.adapter p program path c.files).course =
      c.follow [.compile, .session, .draw, .save] c.files := by
  unfold runStill
  rcases follow_opening plan loaded [.draw, .save] c.files with
    ⟨fault, compiled, course⟩ | ⟨x, fault, asked, compiled, opened, course⟩ |
      ⟨x, s, compiled, opened, session, course⟩
  · rw [course, compiled]
    rfl
  · rw [course, compiled]
    simp only [opened]
    rfl
  · have drawn := drawn?_eq plan session
    have kept := requests_since (s.requests_prefix_draw p.job.startTime.toFloat32)
    rw [course, compiled]
    simp only [opened, Session.exportStill]
    rcases image : s.draw p.job.startTime.toFloat32 with ⟨fault | pixels, last⟩
    · rw [image] at drawn kept
      rw [follow_draw session drawn, kept]
      rfl
    · rw [image] at drawn kept
      have saved := saved?_eq still drawn
      rw [follow_draw session drawn]
      rcases file : Device.savePicture pixels path c.files with ⟨fault, left⟩
      rw [file] at saved
      simp only [follow_save saved, List.append_nil, kept]
      cases fault with
      | none => simp only [file]; rfl
      | some fault => simp only [file]; rfl

/-- The course of a video, once it has its program. -/
theorem course_runVideo {p : Plan} {program : Canonical}
    (plan : c.plan? = some p) (loaded : c.program? = some program) :
    (runVideo c.host c.adapter p program c.files).course =
      c.follow [.frames, .probe, .settings, .compile, .session, .encode] c.files := by
  unfold runVideo
  have frames := fault?_frames plan
  by_cases empty : p.job.totalFrames = 0
  · rw [if_pos empty] at frames ⊢
    rw [follow_of_fault frames]
    rfl
  rw [if_neg empty] at frames ⊢
  rw [follow_of_silent frames rfl rfl]
  have probed := probed?_eq plan
  rcases result : Encoder.probe c.host c.files p.encoderProgram with ⟨fault, left⟩
  rw [result] at probed
  have kept : c.after .probe c.files = left := by simp only [after, probed, Option.elim_some]
  cases fault with
  | some fault =>
    rw [follow_of_fault (fault?_probe probed), steps_probe plan, kept]
    rfl
  | none =>
    rw [follow_of_pass (fault?_probe probed), steps_probe plan, kept]
    have checked := fault?_settings plan
    cases settings : p.encoderConfig.validate with
    | error fault =>
      rw [settings] at checked
      rw [follow_of_fault checked]
      rfl
    | ok _ =>
      rw [settings] at checked
      rw [follow_of_silent checked rfl rfl]
      rcases follow_opening plan loaded [.encode] left with
        ⟨fault, compiled, course⟩ | ⟨x, fault, asked, compiled, opened, course⟩ |
          ⟨x, s, compiled, opened, session, course⟩
      · rw [course, compiled]
        rfl
      · rw [course, compiled]
        simp only [opened]
        rfl
      · have encoded := encoded?_eq plan probed session
        rw [course, compiled, follow_encode plan session encoded]
        simp only [opened, encodeVideo, requestsSince]
        split
        · next fault ended =>
          rw [ended]
          simp only [Report.course, faultOf_error, Option.map_some, List.append_assoc]
        · next summary ended =>
          rw [ended]
          simp only [Report.course, faultOf_ok, Option.map_none, List.append_assoc]

/-- The course of a run that has its plan. -/
theorem course_runPlan {p : Plan} (plan : c.plan? = some p) :
    (runPlan c.host c.adapter c.arguments p c.files).course =
      c.follow (.shader :: c.arguments.work) c.files := by
  unfold runPlan
  have shader := fault?_shader plan
  cases source : Render.loadShader c.files p.shader with
  | error fault =>
    rw [source] at shader
    rw [follow_of_fault shader]
    rfl
  | ok text =>
    have program := program?_eq plan source
    rw [source] at shader
    rw [follow_of_silent shader rfl rfl, Arguments.work]
    by_cases dumped : c.arguments.dumpCanonical = true
    · simp only [if_pos dumped]
      rfl
    · simp only [if_neg dumped]
      cases still : c.arguments.stillExport with
      | none => exact course_runVideo plan program
      | some path => exact course_runStill plan program still

/-- A run follows its stages. -/
theorem course_report (c : Call σ) : c.report.course = c.follow c.arguments.stages c.files := by
  unfold report run Arguments.stages
  cases loaded : loadJobFile c.arguments c.files with
  | error fault =>
    have jobFile : c.fault? .jobFile = some fault := by rw [fault?, loaded]; rfl
    rw [follow_of_fault jobFile]
    rfl
  | ok contents =>
    have jobFile : c.fault? .jobFile = none := by rw [fault?, loaded]; rfl
    have read := contents?_eq loaded
    have resolves := fault?_plan read
    rw [follow_of_silent jobFile rfl rfl]
    cases resolved : Plan.resolve c.arguments contents with
    | error fault =>
      rw [resolved] at resolves
      rw [follow_of_fault resolves]
      simp only [resolved]
      rfl
    | ok p =>
      have plan := plan?_eq read resolved
      rw [resolved] at resolves
      rw [follow_of_silent resolves rfl rfl]
      simp only [resolved]
      exact course_runPlan plan

end Call

end ShaderFilm.CommandLine
