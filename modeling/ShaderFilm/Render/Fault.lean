import ShaderFilm.Files.Fault
import ShaderFilm.Files.Path
import ShaderFilm.Number.Text
import ShaderFilm.Shader.Listing

/-!
# Faults of a render

Each of them ends the render.  Renderers of another make report in words of their own, which the
`other` constructors carry.
-/

namespace ShaderFilm.Render

open ShaderFilm.Files (Path)

/-- A size in messages. -/
def sizeText (width height : UInt32) : String :=
  toString width.toNat ++ "x" ++ toString height.toNat

/-- Why a job cannot be rendered. -/
inductive JobFault where
  | emptyFrame (width height : UInt32)
  | noRate
  | duration (x : Float)
  | startNotFinite
  | emptyTarget (width height : UInt32)
  /-- The frame is larger than the adapter can draw. -/
  | targetTooLarge (limit : Nat) (width height : UInt32)
  /-- The bytes of a row do not fit a 32-bit word. -/
  | rowTooLong
  | other (text : String)

def JobFault.message : JobFault → String
  | emptyFrame w h => "dimensions must be greater than zero (got " ++ sizeText w h ++ ")"
  | noRate => "fps must be greater than zero"
  | duration x =>
    "duration must be a non-negative number of seconds (got " ++ Number.write .plain x ++ ")"
  | startNotFinite => "start time must be finite"
  | emptyTarget w h => "render target must be non-empty (got " ++ sizeText w h ++ ")"
  | targetTooLarge limit w h =>
    "GPU max texture dimension is " ++ toString limit ++ ", requested frame is " ++ sizeText w h
  | rowTooLong => "render target width overflow"
  | other text => text

/-- What went wrong with a device. -/
inductive DeviceFault where
  | creation (reason : String)
  /-- A frame at the given time was found invalid. -/
  | invalidFrame (time : Float32) (reason : String)
  | other (text : String)

def DeviceFault.message : DeviceFault → String
  | creation reason => "failed to create GPU device: " ++ reason
  | invalidFrame time reason =>
    "frame at t=" ++ Number.write32 .plain time ++ " failed validation: " ++ reason
  | other text => text

/-- Why pixels could not be handed out. -/
inductive ReadbackFault where
  | length (found expected : Nat) (width height : UInt32)
  | missingRows
  /-- A frame is not as large as its renderer says. -/
  | frameSize (index : UInt64) (width height expectedWidth expectedHeight : UInt32)
  | poll (reason : String)
  /-- A length is no word.  It is not reported: the program stops. -/
  | overflow
  | other (text : String)
  deriving DecidableEq

def ReadbackFault.message : ReadbackFault → String
  | length found expected w h =>
    "pixel buffer holds " ++ toString found ++ " bytes, expected " ++ toString expected ++
      " for " ++ sizeText w h
  | missingRows => "readback size does not match the target"
  | frameSize index w h ew eh =>
    "frame " ++ toString index.toNat ++ " is " ++ sizeText w h ++ ", expected " ++ sizeText ew eh
  | poll reason => "wgpu poll failed: " ++ reason
  | overflow => "overflow in a length"
  | other text => text

/-- Whether the program stops at once instead of reporting. -/
def ReadbackFault.crashes : ReadbackFault → Bool
  | overflow => true
  | _ => false

/-- Why a render failed. -/
inductive Fault where
  | shaderNotFound (path : Path)
  | unreadableShader (path : Path) (fault : Files.Fault)
  | invalidJob (fault : JobFault)
  /-- The canonical program was refused by the compiler or does not fit the pipeline. -/
  | rejected (program : Shader.Canonical)
  | noAdapter
  | device (fault : DeviceFault)
  | readback (fault : ReadbackFault)
  | unsaved (path : Path) (reason : String)

/-- The first line of what is said about a fault. -/
def Fault.message : Fault → String
  | shaderNotFound path => "shader file not found: " ++ path.toString
  | unreadableShader path fault =>
    "failed to read shader at " ++ path.toString ++ ": " ++ fault.message
  | invalidJob fault => "invalid render job: " ++ fault.message
  | rejected _ => "shader compilation failed:"
  | noAdapter => "no gpu adapter available:"
  | device fault => "gpu device error: " ++ fault.message
  | readback fault => "frame readback failed: " ++ fault.message
  | unsaved path reason => "failed to export still frame to " ++ path.toString ++ ": " ++ reason

/-- Whether the program stops at once instead of reporting. -/
def Fault.crashes : Fault → Bool
  | readback fault => fault.crashes
  | _ => false

/-- What a fault goes back to. -/
def Fault.cause? : Fault → Option Files.Fault
  | unreadableShader _ fault => some fault
  | _ => none

end ShaderFilm.Render
