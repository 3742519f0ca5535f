import ShaderFilm.Device.Power
import ShaderFilm.Files.Path
import ShaderFilm.JobFile.Reading
import ShaderFilm.Toml.Document

/-!
# Contents of a job file

A job file captures the flags of one run, so that a render can be repeated.  Every setting but the
version may be left out, and the command line overrides what the file sets.
-/

namespace ShaderFilm.JobFile

open ShaderFilm.Files (Path)

/-- Settings of the encoder. -/
structure EncoderSection where
  program : Option String
  logLevel : Option String
  deriving DecidableEq, Repr

/-- Settings of the graphics adapter. -/
structure GpuSection where
  power : Option Device.Power
  deriving DecidableEq, Repr

/-- What a job file sets. -/
structure Contents where
  version : UInt32
  shader : Option Path
  output : Option Path
  width : Option UInt32
  height : Option UInt32
  duration : Option Time.Span
  fps : Option UInt32
  /-- The shader time of the first frame, in seconds. -/
  start : Option Float
  encoder : EncoderSection
  gpu : GpuSection

namespace EncoderSection

def empty : EncoderSection := ⟨none, none⟩

def shape : Shape EncoderSection where
  name := "EncoderSection"
  fields := ["program", "log_level"]
  trailing := []
  required := []
  start := empty
  put _ name d s := do
    let value ← d.optional (Datum.text "a string")
    return if name = "program" then { s with program := value } else { s with logLevel := value }

end EncoderSection

namespace GpuSection

def empty : GpuSection := ⟨none⟩

def shape : Shape GpuSection where
  name := "GpuSection"
  fields := ["power"]
  trailing := []
  required := []
  start := empty
  put dialect _ d _ := do
    return ⟨← d.optional (Datum.choice dialect [("low", .low), ("high", .high)])⟩

end GpuSection

namespace Contents

/-- The version that is written today. -/
def currentVersion : UInt32 := 1

/-- A job file that sets nothing. -/
def empty : Contents :=
  ⟨currentVersion, none, none, none, none, none, none, none, .empty, .empty⟩

def readPath (d : Datum) : Decoded (Option Path) := do
  return (← d.optional (Datum.text "path string")).map Path.ofString

/-- Reads one field. -/
def put (dialect : Dialect) (name : String) (d : Datum) (c : Contents) : Decoded Contents := do
  match name with
  | "version" => return { c with version := ← d.word }
  | "shader" => return { c with shader := ← readPath d }
  | "output" => return { c with output := ← readPath d }
  | "width" => return { c with width := ← d.optional Datum.word }
  | "height" => return { c with height := ← d.optional Datum.word }
  | "duration" => return { c with duration := ← d.span }
  | "fps" => return { c with fps := ← d.optional Datum.word }
  | "start" => return { c with start := ← d.optional Datum.real }
  | "encoder" => return { c with encoder := ← EncoderSection.shape.read dialect d }
  | "gpu" => return { c with gpu := ← GpuSection.shape.read dialect d }
  | _ => return c

def shape : Shape Contents where
  name := "JobConfig"
  fields := ["version", "shader", "output", "width", "height", "duration", "fps", "start",
    "encoder", "gpu"]
  trailing := ["duration", "encoder", "gpu"]
  required := ["version"]
  start := empty
  put := put

/-- The duration in seconds. -/
def durationSeconds (c : Contents) : Option Float := c.duration.map Time.Span.toFloat

end Contents

/-! ### Settings that are refused -/

/-- Why contents are refused. -/
inductive Refusal where
  | version (found : UInt32)
  /-- A number that may not be zero. -/
  | zero (field : String)
  | emptyPath (field : String)
  | startNotFinite
  | blankProgram
  deriving DecidableEq, Repr

def Refusal.message : Refusal → String
  | version found =>
    "unsupported job file version " ++ toString found.toNat ++ "; expected " ++
      toString Contents.currentVersion.toNat
  | zero field => field ++ " must be greater than zero"
  | emptyPath field => field ++ " path may not be empty"
  | startNotFinite => "start must be a finite number"
  | blankProgram => "encoder.program may not be empty"

namespace Contents

/-- Refuses a number that is set to zero. -/
def checkNumber (field : String) (value : Option UInt32) : Except Refusal Unit :=
  if value = some 0 then .error (.zero field) else .ok ()

/-- Refuses a path that is set to the empty one. -/
def checkPath (field : String) (value : Option Path) : Except Refusal Unit :=
  if value = some ⟨[]⟩ then .error (.emptyPath field) else .ok ()

/-- Refuses contents that no run could use. -/
def validate (c : Contents) : Except Refusal Unit := do
  if c.version ≠ currentVersion then throw (.version c.version)
  checkNumber "width" c.width
  checkNumber "height" c.height
  checkNumber "fps" c.fps
  checkPath "shader" c.shader
  checkPath "output" c.output
  if c.start.any (!·.isFinite) then throw .startNotFinite
  if c.encoder.program.any fun program => (Text.trim program.toList).isEmpty then
    throw .blankProgram

/-- A path as seen from the directory of a job file. -/
def rebase (base p : Path) : Path := if base.text.isEmpty then p else base.under p

/-- The contents of a file at `path`, whose relative paths are meant to be seen from the directory
that holds it. -/
def seenFrom (path : Path) (c : Contents) : Contents :=
  match path.parent? with
  | none => c
  | some base =>
    { c with shader := c.shader.map (rebase base), output := c.output.map (rebase base) }

end Contents

/-! ### From text and data -/

/-- Why there are no contents. -/
inductive Fault where
  /-- The text is no document. -/
  | malformed
  | mismatch (dialect : Dialect) (m : Mismatch)
  | refused (reason : Refusal)

namespace Fault

/-- Whether the program stops at once instead of reporting. -/
def crashes : Fault → Bool
  | mismatch _ (.malformedDuration _ .carryOverflow) => true
  | _ => false

/-- What is said about the data, without the place. -/
def detail : Fault → Option String
  | malformed => none
  | mismatch dialect m => m.message dialect
  | refused reason => some ("invalid job file: " ++ reason.message)

end Fault

namespace Contents

/-- The contents that data write. -/
def ofDatum (dialect : Dialect) (d : Datum) : Except Fault Contents := do
  match shape.read dialect d with
  | .error m => throw (.mismatch dialect m)
  | .ok c =>
    match c.validate with
    | .error reason => throw (.refused reason)
    | .ok () => return c

/-- The contents that a text writes. -/
def ofText (s : List Char) : Except Fault Contents :=
  match Toml.document? s with
  | none => .error .malformed
  | some entries => ofDatum .toml (.mapping (Datum.ofEntries entries))

end Contents

end ShaderFilm.JobFile
