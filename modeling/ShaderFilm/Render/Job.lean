import ShaderFilm.Render.Fault

/-!
# Render jobs
-/

namespace ShaderFilm.Render

open ShaderFilm.Files (Path)

/-- One render: the size of its frames, their times, and where the video goes. -/
structure Job where
  width : UInt32
  height : UInt32
  /-- The length of the video in seconds. -/
  duration : Float
  fps : UInt32
  /-- The shader time of the first frame in seconds. -/
  startTime : Float
  output : Path

namespace Job

/-- Refuses a job without frames that could be drawn. -/
def validate (job : Job) : Except JobFault Unit := do
  if job.width = 0 ∨ job.height = 0 then throw (.emptyFrame job.width job.height)
  if job.fps = 0 then throw .noRate
  if !job.duration.isFinite || job.duration < 0.0 then throw (.duration job.duration)
  if !job.startTime.isFinite then throw .startNotFinite

/-- The number of frames: the duration times the rate, rounded down, as far as a 64-bit word
reaches. -/
def totalFrames (job : Job) : UInt64 := (job.duration * job.fps.toUInt64.toFloat).toUInt64

end Job

end ShaderFilm.Render
