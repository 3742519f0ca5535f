/-!
# The settings of the command line

Everything that may be given on the command line, with its names and what is said about it.
-/

namespace ShaderFilm.CommandLine

/-- Something that may be given on the command line. -/
inductive Setting where
  | shader
  | output
  | width
  | height
  | duration
  | fps
  | start
  | config
  | ffmpeg
  | gpuPower
  | stillExport
  | dumpCanonical
  | help
  | version
  deriving DecidableEq, Repr

/-- How a setting is given. -/
structure Form where
  /-- The letter behind a single dash. -/
  short : Option Char
  /-- The word behind two dashes; what has none stands on its own. -/
  long : Option String
  /-- What its value is called; what has none takes no value. -/
  value : Option String
  /-- What it is for. -/
  purpose : String
  deriving DecidableEq, Repr

namespace Setting

/-- The variable of the environment that names the encoder. -/
def encoderVariable : String := "SHADEREEL_FFMPEG"

def form : Setting → Form
  | shader => ⟨none, none, some "SHADER",
      "Fragment shader source (`.frag`, `.glsl`). May come from `--config` instead"⟩
  | output => ⟨some 'o', some "output", some "PATH",
      "Output video path; `.mov` selects ProRes, anything else H.264 (default: `<shader>.mp4`)"⟩
  | width => ⟨some 'W', some "width", some "PIXELS", "Frame width in pixels (default: 1920)"⟩
  | height => ⟨some 'H', some "height", some "PIXELS", "Frame height in pixels (default: 1080)"⟩
  | duration => ⟨some 'd', some "duration", some "SECONDS",
      "Video length as seconds or a human-readable span like `1m30s` (default: 10)"⟩
  | fps => ⟨none, some "fps", some "FPS", "Frames per second (default: 30)"⟩
  | start => ⟨none, some "start", some "SECONDS",
      "Value of `u_time` on the first frame (default: 0)"⟩
  | config => ⟨none, some "config", some "FILE",
      "Job file (TOML) providing defaults for any of the flags above"⟩
  | ffmpeg => ⟨none, some "ffmpeg", some "PROGRAM",
      "Encoder executable; can also be supplied via `" ++ encoderVariable ++ "`"⟩
  | gpuPower => ⟨none, some "gpu-power", some "low|high", "GPU adapter preference: `low` or `high`"⟩
  | stillExport => ⟨none, some "still-export", some "PNG",
      "Render a single frame at the start time to this PNG and exit without encoding"⟩
  | dumpCanonical => ⟨none, some "dump-canonical", none,
      "Print the generated shader program and exit"⟩
  | help => ⟨some 'h', some "help", none, "Print help"⟩
  | version => ⟨some 'V', some "version", none, "Print version"⟩

/-- All options in the order of the help text. -/
def options : List Setting :=
  [output, width, height, duration, fps, start, config, ffmpeg, gpuPower, stillExport,
    dumpCanonical, help, version]

/-- The option with the given word. -/
def ofLong? (name : List Char) : Option Setting :=
  options.find? fun s => s.form.long.any (·.toList == name)

/-- The option with the given letter. -/
def ofShort? (c : Char) : Option Setting := options.find? fun s => s.form.short == some c

def takesValue (s : Setting) : Bool := s.form.value.isSome

/-- How messages name a setting. -/
def display (s : Setting) : String :=
  match s.form.long, s.form.value with
  | none, value => "[" ++ value.getD "" ++ "]"
  | some long, none => "--" ++ long
  | some long, some value => "--" ++ long ++ " <" ++ value ++ ">"

end Setting

end ShaderFilm.CommandLine
