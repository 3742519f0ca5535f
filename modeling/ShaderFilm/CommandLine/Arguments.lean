import ShaderFilm.CommandLine.Setting
import ShaderFilm.CommandLine.Value
import ShaderFilm.Files.Path
import ShaderFilm.Text.Line

/-!
# Arguments

The arguments are read from left to right.  The value of a setting is looked at only when the next
setting begins, so a fault in the names of later arguments may be reported before it.
-/

namespace ShaderFilm.CommandLine

open ShaderFilm.Files (Path)

/-- What was given on the command line. -/
structure Arguments where
  shader : Option Path
  output : Option Path
  width : Option UInt32
  height : Option UInt32
  duration : Option Float
  fps : Option UInt32
  start : Option Float
  config : Option Path
  ffmpeg : Option String
  gpuPower : Option Device.Power
  stillExport : Option Path
  dumpCanonical : Bool

def Arguments.empty : Arguments :=
  ⟨none, none, none, none, none, none, none, none, none, none, none, false⟩

/-- Why there is nothing to run. -/
inductive Refusal where
  | helpWanted
  | versionWanted
  | unknown (argument : List Char)
  | valueMissing (s : Setting)
  | repeated (s : Setting)
  | invalidValue (s : Setting) (value : List Char) (fault : ValueFault)
  | valueUnwanted (s : Setting) (value : List Char)
  deriving DecidableEq, Repr

namespace Refusal

/-- What is said about a refusal; nothing where help or the version was wanted. -/
def message? : Refusal → Option String
  | helpWanted => none
  | versionWanted => none
  | unknown argument => some ("error: unexpected argument '" ++ String.ofList argument ++ "' found")
  | valueMissing s =>
    some ("error: a value is required for '" ++ s.display ++ "' but none was supplied")
  | repeated s =>
    some ("error: the argument '" ++ s.display ++ "' cannot be used multiple times")
  | invalidValue s value fault =>
    some ("error: invalid value '" ++ String.ofList value ++ "' for '" ++ s.display ++ "': " ++
      fault.message)
  | valueUnwanted s value =>
    some ("error: unexpected value '" ++ String.ofList value ++ "' for '" ++ s.display ++
      "' found; no more were expected")

/-- The first line of what is said. -/
def headline? (r : Refusal) : Option String :=
  r.message?.map fun m => String.ofList ((Text.lines m.toList).headD [])

def crashes : Refusal → Bool
  | invalidValue _ _ fault => fault.crashes
  | _ => false

end Refusal

namespace Arguments

/-- A path, which may not be empty. -/
def readPath (s : Setting) (value : List Char) : Except Refusal (Option Path) :=
  if value.isEmpty then .error (.valueMissing s) else .ok (some ⟨value⟩)

/-- A value read by a reader of its own. -/
def readWith {α : Type} (read : List Char → Except ValueFault α) (s : Setting)
    (value : List Char) : Except Refusal (Option α) :=
  match read value with
  | .ok a => .ok (some a)
  | .error fault => .error (.invalidValue s value fault)

/-- The arguments with the value of a setting. -/
def put (a : Arguments) (s : Setting) (value : List Char) : Except Refusal Arguments := do
  match s with
  | .shader => return { a with shader := ← readPath s value }
  | .output => return { a with output := ← readPath s value }
  | .width => return { a with width := ← readWith readDimension s value }
  | .height => return { a with height := ← readWith readDimension s value }
  | .duration => return { a with duration := ← readWith readDuration s value }
  | .fps => return { a with fps := ← readWith readRate s value }
  | .start => return { a with start := ← readWith readStart s value }
  | .config => return { a with config := ← readPath s value }
  | .ffmpeg => return { a with ffmpeg := some (String.ofList value) }
  | .gpuPower => return { a with gpuPower := ← readWith readPower s value }
  | .stillExport => return { a with stillExport := ← readPath s value }
  | .dumpCanonical => return { a with dumpCanonical := true }
  | .help => throw .helpWanted
  | .version => throw .versionWanted

end Arguments

/-! ### Reading -/

/-- What is known between two arguments. -/
structure Reading where
  taken : Arguments
  /-- The settings that were taken. -/
  given : List Setting
  /-- A setting that is not settled yet, with its value if that has been seen. -/
  pending : Option (Setting × Option (List Char))
  /-- Whether only what stands on its own may follow. -/
  trailing : Bool
  /-- Whether the shader has been seen. -/
  shaderSeen : Bool

namespace Reading

def start : Reading := ⟨.empty, [], none, false, false⟩

/-- Takes a setting with its value.  No setting can be given twice. -/
def take (r : Reading) (s : Setting) (value : List Char) : Except Refusal Reading := do
  if r.given.contains s then throw (.repeated s)
  return { r with taken := ← r.taken.put s value, given := s :: r.given }

/-- Takes the setting that is not settled yet. -/
def settle (r : Reading) : Except Refusal Reading :=
  match r.pending with
  | none => .ok r
  | some (s, none) => .error (.valueMissing s)
  | some (s, some value) => { r with pending := none }.take s value

/-- Begins a setting, whose value may be attached. -/
def begin (r : Reading) (s : Setting) (attached : Option (List Char)) : Except Refusal Reading := do
  let r ← r.settle
  match attached with
  | some value => r.take s value
  | none =>
    if s.takesValue then return { r with pending := some (s, none) } else r.take s []

/-- Whether a text behind a dash makes a negative number: digits, with a point that is not in front
and an exponent that is not empty. -/
def isNumber (s : List Char) : Bool :=
  let (digits, exponent) := s.span (· != 'e')
  !s.isEmpty && (digits.filter (· == '.')).length ≤ 1 && digits.head? != some '.' &&
    digits.all (fun c => c.isDigit || c == '.') &&
    (exponent.isEmpty || (!digits.isEmpty && 1 < exponent.length &&
      exponent.tail.all Char.isDigit))

/-- The setting whose value comes next. -/
def awaited (r : Reading) : Option Setting :=
  match r.pending with
  | some (s, none) => some s
  | _ => none

/-- Takes an argument that begins with two dashes, given without them. -/
def long (r : Reading) (text : List Char) : Except Refusal Reading :=
  let (name, rest) := text.span (· != '=')
  let attached := if rest.isEmpty then none else some rest.tail
  match Setting.ofLong? name with
  | none => .error (.unknown ('-' :: '-' :: name))
  | some s =>
    match attached with
    | some value =>
      if s.takesValue then r.begin s attached else .error (.valueUnwanted s value)
    | none => r.begin s none

/-- Takes an argument that begins with one dash, given without it. -/
def short (r : Reading) : List Char → Except Refusal Reading
  | [] => .ok r
  | c :: rest =>
    match Setting.ofShort? c with
    | none => .error (.unknown ['-', c])
    | some s =>
      if !s.takesValue then r.begin s none
      else
        match rest with
        | [] => r.begin s none
        | '=' :: value => r.begin s (some value)
        | value => r.begin s (some value)

/-- Takes an argument that stands on its own. -/
def positional (r : Reading) (argument : List Char) : Except Refusal Reading := do
  if r.shaderSeen then throw (.unknown argument)
  let r ← r.settle
  return { r with pending := some (.shader, some argument), shaderSeen := true }

/-- Takes an argument that is no option. -/
def plain (r : Reading) (argument : List Char) : Except Refusal Reading :=
  match r.awaited with
  | some s => .ok { r with pending := some (s, some argument) }
  | none => r.positional argument

/-- Takes an argument. -/
def step (r : Reading) (argument : List Char) : Except Refusal Reading :=
  if r.trailing then r.positional argument
  else
    match argument with
    | ['-', '-'] => .ok { r with trailing := true }
    | '-' :: '-' :: text => r.long text
    | ['-'] => r.plain argument
    | '-' :: text =>
      if r.awaited = some .start ∧ isNumber text then r.plain argument else r.short text
    | _ => r.plain argument

end Reading

/-- What a list of arguments gives.  The environment may name the encoder where they do not. -/
def Arguments.read (arguments : List String) (encoder : Option String) :
    Except Refusal Arguments := do
  let r ← (arguments.map String.toList).foldlM Reading.step Reading.start
  let r ← r.settle
  return { r.taken with ffmpeg := r.taken.ffmpeg.or encoder }

end ShaderFilm.CommandLine
