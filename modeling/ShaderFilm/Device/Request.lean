import ShaderFilm.Device.Power
import ShaderFilm.Device.Slot

/-!
# Requests to a device

What is asked of a graphics device, in order.
-/

namespace ShaderFilm.Device

/-- A request to a device. -/
inductive Request where
  | adapter (options : Options)
  /-- A pipeline that draws a triangle strip of vertices so many bytes apart. -/
  | pipeline (stride : Nat)
  | vertices (bytes : List UInt8)
  | buffer (label : String) (size : Nat)
  /-- Bytes written into a buffer from its beginning on. -/
  | write (label : String) (bytes : List UInt8)
  | target (width height : UInt32)
  /-- The target is made black. -/
  | clear
  /-- The vertices are drawn while the uniform buffers hold what is said. -/
  | draw (vertices : Nat) (uniforms : Buffers)
  /-- The target is copied into the staging buffer. -/
  | copy (width height bytesPerRow : UInt32)
  deriving DecidableEq, Repr

/-- The corners of the square that covers the target, in the order of a strip. -/
def quad : List (Float32 × Float32) := [(-1.0, -1.0), (1.0, -1.0), (-1.0, 1.0), (1.0, 1.0)]

/-- The bytes of the corners. -/
def quadBytes : List UInt8 := quad.flatMap fun (x, y) => wordBytes x.toBits ++ wordBytes y.toBits

/-- How many bytes a corner has. -/
def quadStride : Nat := 8

/-- The name of the staging buffer. -/
def stagingLabel : String := "shadereel readback"

/-- Copied rows begin at multiples of this number of bytes. -/
def rowAlignment : UInt32 := 256

end ShaderFilm.Device
