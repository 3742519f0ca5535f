import ShaderFilm.Encoder.Fault
import ShaderFilm.Encoder.Profile
import ShaderFilm.Text.Blank

/-!
# Encode settings
-/

namespace ShaderFilm.Encoder

open ShaderFilm.Files (Path)

/-- Everything that is needed to start an encoder. -/
structure Config where
  width : UInt32
  height : UInt32
  fps : UInt32
  output : Path
  /-- The name or the path of the encoder. -/
  program : String
  /-- How much the encoder tells. -/
  logLevel : String
  deriving DecidableEq, Repr

namespace Config

def defaultProgram : String := "ffmpeg"

def defaultLogLevel : String := "error"

def profile (c : Config) : Profile := .forOutput c.output

/-- Refuses settings that no encoder could follow. -/
def validate (c : Config) : Except ConfigFault Unit := do
  if c.width = 0 ∨ c.height = 0 then throw .emptyFrame
  if c.fps = 0 then throw .noRate
  if c.output.text.isEmpty then throw .emptyPath
  if (Text.trim c.program.toList).isEmpty then throw .blankProgram
  if c.profile.requiresEvenWidth ∧ c.width % 2 ≠ 0 then
    throw (.oddWidth c.width c.profile.pixelFormat)
  if c.profile.requiresEvenHeight ∧ c.height % 2 ≠ 0 then
    throw (.oddHeight c.height c.profile.pixelFormat)

/-- The arguments of the encoder: raw frames come in through its standard input, and the output file
comes last. -/
def arguments (c : Config) : List String :=
  ["-y", "-loglevel", c.logLevel, "-f", "rawvideo", "-pixel_format", "rgba", "-video_size",
    Render.sizeText c.width c.height, "-framerate", toString c.fps.toNat, "-i", "pipe:0", "-an",
    "-c:v", c.profile.codec, "-pix_fmt", c.profile.pixelFormat] ++ c.profile.codecArguments ++
    [c.output.toString]

end Config

end ShaderFilm.Encoder
