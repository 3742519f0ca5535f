import ShaderFilm.Render.Job

/-!
# Frame times
-/

namespace ShaderFilm.Render

/-- A frame and the shader time at which it is drawn. -/
structure Frame where
  index : UInt64
  time : Float

/-- When the frames of a job are drawn. -/
structure Schedule where
  startTime : Float
  fps : UInt32
  total : UInt64

namespace Schedule

def ofJob (job : Job) : Schedule := ⟨job.startTime, job.fps, job.totalFrames⟩

/-- The time of a frame: the start and as many frame lengths as there are frames before. -/
def timeAt (s : Schedule) (index : UInt64) : Float :=
  s.startTime + index.toFloat / s.fps.toUInt64.toFloat

/-- The frame with the given index, if there are so many. -/
def frame? (s : Schedule) (index : UInt64) : Option Frame :=
  if index < s.total then some ⟨index, s.timeAt index⟩ else none

/-- The first `count` frames, or all of them if there are fewer. -/
def firstFrames (s : Schedule) (count : Nat) : List Frame :=
  (List.range (min count s.total.toNat)).map fun i => ⟨UInt64.ofNat i, s.timeAt (UInt64.ofNat i)⟩

/-- All frames in order. -/
def frames (s : Schedule) : List Frame := s.firstFrames s.total.toNat

end Schedule

end ShaderFilm.Render
