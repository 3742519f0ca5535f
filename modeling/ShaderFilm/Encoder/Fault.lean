import ShaderFilm.Render.Fault

/-!
# Faults of an encode
-/

namespace ShaderFilm.Encoder

open ShaderFilm.Files (Path)
open ShaderFilm.Render (sizeText)

/-- Why nothing can be encoded as asked. -/
inductive ConfigFault where
  | emptyFrame
  | noRate
  | emptyPath
  | blankProgram
  | oddWidth (width : UInt32) (pixelFormat : String)
  | oddHeight (height : UInt32) (pixelFormat : String)
  /-- A frame has another size than the video. -/
  | frameSize (width height expectedWidth expectedHeight : UInt32)
  deriving DecidableEq, Repr

def ConfigFault.message : ConfigFault → String
  | emptyFrame => "encode width/height must be non-zero"
  | noRate => "encode fps must be non-zero"
  | emptyPath => "output path is empty"
  | blankProgram => "encoder program is empty"
  | oddWidth w format => "width " ++ toString w.toNat ++ " must be even for " ++ format
  | oddHeight h format => "height " ++ toString h.toNat ++ " must be even for " ++ format
  | frameSize w h ew eh =>
    "frame size mismatch: got " ++ sizeText w h ++ ", expected " ++ sizeText ew eh

/-- How a program ended: with zero if it succeeded. -/
abbrev ExitStatus := Nat

def statusText (status : ExitStatus) : String := "exit status: " ++ toString status

/-- Why an encode failed. -/
inductive Fault where
  /-- The encoder cannot be run. -/
  | unavailable (program : String) (fault : Files.Fault)
  /-- The encoder was run to see whether it can be, and did not succeed. -/
  | probeFailed (program : String) (status : ExitStatus)
  | invalidConfig (fault : ConfigFault)
  | spawn (program : String) (fault : Files.Fault)
  | write (frame : Nat) (fault : Files.Fault)
  /-- The encoder ran and did not succeed. -/
  | failure (status : ExitStatus) (diagnostics : String)
  | output (path : Path) (fault : Files.Fault)
  | render (fault : Render.Fault)

def Fault.message : Fault → String
  | unavailable program fault =>
    "video encoder '" ++ program ++ "' is not available: " ++ fault.message
  | probeFailed program status =>
    "video encoder '" ++ program ++ "' is not available: `" ++ program ++
      " -version` exited with " ++ statusText status
  | invalidConfig fault => "invalid encode configuration: " ++ fault.message
  | spawn program fault => "failed to start encoder '" ++ program ++ "': " ++ fault.message
  | write frame fault =>
    "failed to write frame " ++ toString frame ++ " to the encoder: " ++ fault.message
  | failure status diagnostics => "encoder exited with " ++ statusText status ++ ": " ++ diagnostics
  | output path fault => "failed to prepare output " ++ path.toString ++ ": " ++ fault.message
  | render fault => fault.message

/-- What a fault goes back to. -/
def Fault.cause? : Fault → Option Files.Fault
  | spawn _ fault => some fault
  | write _ fault => some fault
  | output _ fault => some fault
  | render fault => fault.cause?
  | _ => none

end ShaderFilm.Encoder
