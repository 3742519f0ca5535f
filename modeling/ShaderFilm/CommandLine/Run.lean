import ShaderFilm.CommandLine.Plan
import ShaderFilm.Device.Session
import ShaderFilm.Encoder.Pipeline
import ShaderFilm.Render.Source

/-!
# Runs

A run goes through its stages in order, and the first fault ends it: the job file, the plan and the
shader; then, for a still, the compiler, the session, the draw and the file; for a video, the number
of frames, the encoder and its settings, the compiler, the session, and the encode.
-/

namespace ShaderFilm.CommandLine

open ShaderFilm.Device (Adapter Request Session)
open ShaderFilm.Encoder (Deed Host)
open ShaderFilm.Files (Path Tree)
open ShaderFilm.JobFile (Contents)
open ShaderFilm.Shader (Canonical Compiled)

/-- Why a run failed. -/
inductive Fault where
  | jobFile (path : Path) (fault : JobFile.LoadFault)
  | plan (fault : PlanFault)
  | render (fault : Render.Fault)
  | noFrames (duration : Float) (fps : UInt32)
  | encoder (fault : Encoder.Fault)
  /-- The encode of an output failed. -/
  | encode (output : Path) (fault : Encoder.Fault)

namespace Fault

/-- A message, and that of what it goes back to. -/
def withCause (message : String) (cause : Option Files.Fault) : List String :=
  message :: (cause.map Files.Fault.message).toList

/-- What is said about a fault and about what it goes back to, the outermost first. -/
def chain : Fault → List String
  | jobFile path fault => ("failed to load job file " ++ path.toString) :: fault.chain
  | plan fault => fault.chain
  | render fault => withCause fault.message fault.cause?
  | noFrames duration fps =>
    ["duration " ++ Number.write .plain duration ++ "s at " ++ toString fps.toNat ++
      " fps produces no frames"]
  | encoder fault => withCause fault.message fault.cause?
  | encode output fault =>
    ("failed to render " ++ output.toString) :: withCause fault.message fault.cause?

def crashes : Fault → Bool
  | jobFile _ fault => fault.crashes
  | render fault => fault.crashes
  | _ => false

/-- Whether the run failed for want of an adapter. -/
def lacksAdapter : Fault → Bool
  | render .noAdapter => true
  | _ => false

end Fault

/-- Something that is done outside. -/
inductive Step where
  | probe (program : String)
  | device (request : Request)
  | encoder (deed : Deed)
  deriving DecidableEq, Repr

/-- How a run went. -/
structure Report where
  /-- The fault that ended it, if there was one. -/
  fault : Option Fault
  /-- What it printed. -/
  printed : List Char
  files : Tree
  log : List Log.Event
  /-- What was done outside, in order, but that the draws of an encode stand behind its deeds. -/
  steps : List Step

namespace Report

def failed (fault : Fault) (files : Tree) (steps : List Step) : Report :=
  ⟨some fault, [], files, [], steps⟩

end Report

variable {σ : Type}

/-- The contents of the job file that the arguments name. -/
def loadJobFile (a : Arguments) (files : Tree) : Except Fault Contents :=
  match a.config with
  | none => .ok .empty
  | some path =>
    match Contents.load files path with
    | .ok c => .ok c
    | .error fault => .error (.jobFile path fault)

/-- Compiles a program for a run. -/
def compileFor (program : Canonical) : Except Render.Fault Compiled :=
  match Shader.compile program with
  | .ok c => .ok c
  | .error _ => .error (.rejected program)

/-- The event that tells of a still. -/
def stillEvent (path : Path) (time : Float) : Log.Event :=
  ⟨.info, "exported still frame",
    [("path", path.toString), ("time", Number.write .scientific time)]⟩

/-- Draws one frame into a file. -/
def runStill (adapter : Option Adapter) (p : Plan) (program : Canonical) (path : Path)
    (files : Tree) : Report :=
  match compileFor program with
  | .error fault => .failed (.render fault) files []
  | .ok compiled =>
    match Session.openFor adapter p.device compiled p.job 0 with
    | (.error fault, asked) => .failed (.render fault) files (asked.map .device)
    | (.ok session, _) =>
      let (fault, session, files) := session.exportStill p.job.startTime.toFloat32 path files
      let steps := session.requests.map Step.device
      match fault with
      | some fault => .failed (.render fault) files steps
      | none => ⟨none, [], files, [stillEvent path p.job.startTime], steps⟩

/-- The event that tells of the beginning of a video. -/
def renderingEvent (p : Plan) (s : Session) : Log.Event :=
  ⟨.info, "rendering shader to video",
    [("shader", p.shader.toString), ("output", p.job.output.toString),
      ("width", toString p.job.width.toNat), ("height", toString p.job.height.toNat),
      ("fps", toString p.job.fps.toNat), ("frames", toString p.job.totalFrames.toNat),
      ("adapter", s.adapter.name)]⟩

/-- The event that tells of a video that was saved. -/
def savedEvent (s : Encoder.Summary) : Log.Event :=
  ⟨.info, "video saved to " ++ s.output.toString,
    [("frames", toString s.frames), ("bytes", toString s.bytes), ("profile", s.profile.text)]⟩

/-- Encodes the frames of a session. -/
def encodeVideo (host : Host σ) (p : Plan) (session : Session) (files : Tree)
    (before : List Step) : Report :=
  let sequence := Render.Sequence.start session (.ofJob p.job)
  let outcome := Encoder.run host (.ofRenderer Session.renderer) p.encoderConfig sequence files
  let opening := session.requests
  let drawing := outcome.source.renderer.requests.drop opening.length
  let steps := before ++ opening.map .device ++ outcome.deeds.map .encoder ++ drawing.map .device
  let log := renderingEvent p session :: outcome.log
  match outcome.result with
  | .error fault => ⟨some (.encode p.job.output fault), [], outcome.files, log, steps⟩
  | .ok summary => ⟨none, [], outcome.files, log ++ [savedEvent summary], steps⟩

/-- Makes a video. -/
def runVideo (host : Host σ) (adapter : Option Adapter) (p : Plan) (program : Canonical)
    (files : Tree) : Report :=
  if p.job.totalFrames = 0 then .failed (.noFrames p.job.duration p.job.fps) files []
  else
    let before := [Step.probe p.encoderProgram]
    match Encoder.probe host files p.encoderProgram with
    | (some fault, files) => .failed (.encoder fault) files before
    | (none, files) =>
      match p.encoderConfig.validate with
      | .error fault => .failed (.encoder (.invalidConfig fault)) files before
      | .ok () =>
        match compileFor program with
        | .error fault => .failed (.render fault) files before
        | .ok compiled =>
          match Session.openFor adapter p.device compiled p.job 0 with
          | (.error fault, asked) => .failed (.render fault) files (before ++ asked.map .device)
          | (.ok session, _) => encodeVideo host p session files before

/-- Follows a plan. -/
def runPlan (host : Host σ) (adapter : Option Adapter) (a : Arguments) (p : Plan) (files : Tree) :
    Report :=
  match Render.loadShader files p.shader with
  | .error fault => .failed (.render fault) files []
  | .ok source =>
    let program := Shader.canonicalize source
    if a.dumpCanonical then ⟨none, program.text, files, [], []⟩
    else
      match a.stillExport with
      | some path => runStill adapter p program path files
      | none => runVideo host adapter p program files

/-- Does what the arguments ask for. -/
def run (host : Host σ) (adapter : Option Adapter) (a : Arguments) (files : Tree) : Report :=
  match loadJobFile a files with
  | .error fault => .failed fault files []
  | .ok c =>
    match Plan.resolve a c with
    | .error fault => .failed (.plan fault) files []
    | .ok p => runPlan host adapter a p files

end ShaderFilm.CommandLine
