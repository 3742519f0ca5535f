import ShaderFilm.CommandLine.Arguments
import ShaderFilm.Encoder.Config
import ShaderFilm.JobFile.Load
import ShaderFilm.Render.Job

/-!
# Plans

What the command line gives goes before what the job file sets, and that before the defaults.
-/

namespace ShaderFilm.CommandLine

open ShaderFilm.Files (Path)
open ShaderFilm.JobFile (Contents)
open ShaderFilm.Render (Job JobFault)

/-- Everything that a run needs. -/
structure Plan where
  shader : Path
  job : Job
  encoderProgram : String
  encoderLogLevel : String
  device : Device.Options

/-- Why there is no plan. -/
inductive PlanFault where
  | noShader
  | settings (fault : JobFault)

def PlanFault.chain : PlanFault → List String
  | noShader => ["no shader given; pass a SHADER path or set `shader` in the job file"]
  | settings fault => ["invalid render settings", (Render.Fault.invalidJob fault).message]

namespace Plan

def defaultWidth : UInt32 := 1920

def defaultHeight : UInt32 := 1080

def defaultDuration : Float := 10.0

def defaultFps : UInt32 := 30

def defaultStart : Float := 0.0

/-- The output of a shader where none is named: in the working directory, and named after it. -/
def defaultOutput (shader : Path) : Path :=
  ⟨shader.stem?.getD "output".toList ++ ".mp4".toList⟩

/-- The job that arguments and a job file describe. -/
def jobOf (a : Arguments) (c : Contents) (shader : Path) : Job where
  width := (a.width.or c.width).getD defaultWidth
  height := (a.height.or c.height).getD defaultHeight
  duration := (a.duration.or c.durationSeconds).getD defaultDuration
  fps := (a.fps.or c.fps).getD defaultFps
  startTime := (a.start.or c.start).getD defaultStart
  output := (a.output.or c.output).getD (defaultOutput shader)

/-- The plan that arguments and a job file make. -/
def resolve (a : Arguments) (c : Contents) : Except PlanFault Plan := do
  match a.shader.or c.shader with
  | none => throw .noShader
  | some shader =>
    let job := jobOf a c shader
    match job.validate with
    | .error fault => throw (.settings fault)
    | .ok () =>
      return {
        shader
        job
        encoderProgram := (a.ffmpeg.or c.encoder.program).getD Encoder.Config.defaultProgram
        encoderLogLevel := c.encoder.logLevel.getD Encoder.Config.defaultLogLevel
        device := ⟨(a.gpuPower.or c.gpu.power).getD .default, false⟩ }

/-- The settings of the encoder. -/
def encoderConfig (p : Plan) : Encoder.Config :=
  ⟨p.job.width, p.job.height, p.job.fps, p.job.output, p.encoderProgram, p.encoderLogLevel⟩

end Plan

end ShaderFilm.CommandLine
