import ShaderFilm.Device.Power
import ShaderFilm.Number.Decimal
import ShaderFilm.Time.SpanText

/-!
# Values of options

How the texts behind options are read, and what is said about those that cannot be.
-/

namespace ShaderFilm.CommandLine

open ShaderFilm.Text (trim)

/-- Why a text is no value of an option. -/
inductive ValueFault where
  | pixelCount (text : List Char)
  | zeroDimension
  | frameRate (text : List Char)
  | zeroRate
  | emptyDuration
  | malformedDuration (text : List Char) (fault : Time.SpanFault)
  | duration (text : List Char)
  | startTime (text : List Char)
  | startNotFinite
  | power (word : List Char)
  deriving DecidableEq, Repr

namespace ValueFault

def message : ValueFault → String
  | pixelCount text => "invalid pixel count '" ++ String.ofList text ++ "'"
  | zeroDimension => "dimension must be greater than zero"
  | frameRate text =>
    "invalid frame rate '" ++ String.ofList text ++ "'; expected a whole number"
  | zeroRate => "fps must be greater than zero"
  | emptyDuration => "duration must not be empty"
  | malformedDuration text fault =>
    "invalid duration '" ++ String.ofList text ++ "': " ++ fault.message
  | duration text => "duration must be non-negative (got " ++ String.ofList text ++ ")"
  | startTime text => "invalid start time '" ++ String.ofList text ++ "'"
  | startNotFinite => "start time must be finite"
  | power word => Device.Power.unknownMessage word

/-- Whether the program stops at once instead of reporting. -/
def crashes : ValueFault → Bool
  | malformedDuration _ .carryOverflow => true
  | _ => false

end ValueFault

/-- An unsigned 32-bit number: digits behind an optional plus sign. -/
def readWord? (s : List Char) : Option UInt32 :=
  let digits := match s with
    | '+' :: rest => rest
    | _ => s
  if digits.isEmpty ∨ !digits.all Char.isDigit then none
  else
    let n := Number.natOfDigits digits
    if n < UInt32.size then some (UInt32.ofNat n) else none

/-- The width or the height of a frame. -/
def readDimension (s : List Char) : Except ValueFault UInt32 :=
  match readWord? (trim s) with
  | none => .error (.pixelCount s)
  | some n => if n = 0 then .error .zeroDimension else .ok n

/-- A frame rate. -/
def readRate (s : List Char) : Except ValueFault UInt32 :=
  match readWord? (trim s) with
  | none => .error (.frameRate s)
  | some n => if n = 0 then .error .zeroRate else .ok n

/-- The seconds that a text writes, as a number or with units. -/
def readSeconds (s : List Char) : Except ValueFault Float :=
  match Number.readNumber? s with
  | some x => .ok x
  | none =>
    match Time.Span.ofText s with
    | .ok span => .ok span.toFloat
    | .error fault => .error (.malformedDuration s fault)

/-- A duration in seconds. -/
def readDuration (s : List Char) : Except ValueFault Float := do
  let s := trim s
  if s.isEmpty then throw .emptyDuration
  let seconds ← readSeconds s
  if !seconds.isFinite || seconds < 0.0 then throw (.duration s)
  return seconds

/-- A start time in seconds. -/
def readStart (s : List Char) : Except ValueFault Float :=
  match Number.readNumber? (trim s) with
  | none => .error (.startTime s)
  | some x => if x.isFinite then .ok x else .error .startNotFinite

/-- A preference for an adapter. -/
def readPower (s : List Char) : Except ValueFault Device.Power :=
  match Device.Power.ofText s with
  | .ok p => .ok p
  | .error word => .error (.power word)

end ShaderFilm.CommandLine
