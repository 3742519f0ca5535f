import ShaderFilm.Device.Checksum
import ShaderFilm.Device.Slot
import ShaderFilm.Render.Pixels

/-!
# Adapters

An adapter is known by its name, by the largest side that it draws, and by what its draws do: what
they leave in the target, and which of them fail.
-/

namespace ShaderFilm.Device

open ShaderFilm.Render (Color)

/-- A graphics adapter. -/
structure Adapter where
  name : String
  /-- The largest width and height of a target. -/
  maxDimension : Nat
  /-- What a draw takes from the uniforms. -/
  digest : Buffers → UInt64
  /-- What a draw leaves at a place of the target, counted from where copying begins. -/
  texel : (digest : UInt64) → (x y : Nat) → Color
  /-- Why the draw with the given number is invalid, if it is. -/
  invalid : Nat → Option String
  /-- Why waiting for the draw with the given number fails, if it does. -/
  pollFault : Nat → Option String

namespace Adapter

/-- No device is made with a larger limit. -/
def greatestLimit : Nat := 2147483647

/-- What fills the staging buffer between rows. -/
def padding : UInt8 := 0xEE

/-- A row of the staging buffer. -/
def stagingRow (a : Adapter) (digest : UInt64) (width : UInt32) (padded y : Nat) : List UInt8 :=
  (List.range width.toNat).flatMap (fun x => (a.texel digest x y).bytes) ++
    List.replicate (padded - Render.rowLength width) padding

/-- The staging buffer after a draw was copied into it. -/
def staging (a : Adapter) (b : Buffers) (width height : UInt32) (padded : Nat) : List UInt8 :=
  let digest := a.digest b
  (List.range height.toNat).flatMap (a.stagingRow digest width padded)

/-- An adapter that runs no shader: a place of the target shows where it is and what the uniforms
are. -/
def testCard (maxDimension : Nat) (invalidDraw failingPoll : Option Nat) : Adapter where
  name := "test card"
  maxDimension := maxDimension
  digest b := checksum b.bytes
  texel digest x y := ⟨UInt8.ofNat x, UInt8.ofNat y, digest.toUInt8, 255⟩
  invalid n := if invalidDraw = some n then some "injected" else none
  pollFault n :=
    if failingPoll = some n then
      some "The requested Wait timed out before the submission was completed."
    else none

end Adapter

end ShaderFilm.Device
