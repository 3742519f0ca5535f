import ShaderFilm.Number.Arithmetic
import ShaderFilm.Render.Fault

/-!
# Pixels

An image is its rows from top to bottom, four bytes for each pixel and nothing between.  Lengths and
places are counted in 64-bit words.  The program stops where one of them is no word, so no image has
such a length; what becomes of them otherwise is said as well.
-/

namespace ShaderFilm.Render

open ShaderFilm.Number (Arithmetic)

/-- A colour with its opacity. -/
structure Color where
  red : UInt8
  green : UInt8
  blue : UInt8
  alpha : UInt8
  deriving DecidableEq, Repr

def Color.bytes (c : Color) : List UInt8 := [c.red, c.green, c.blue, c.alpha]

/-- The first number that is no length. -/
def lengthLimit : Nat := 0x10000000000000000

/-- How many bytes a row has. -/
def rowLength (width : UInt32) : Nat := 4 * width.toNat

/-- How many bytes an image has. -/
def frameLength? (a : Arithmetic) (width height : UInt32) : Option Nat :=
  a.word? lengthLimit (4 * width.toNat * height.toNat)

/-- Refuses bytes that are not as many as an image has. -/
def checkLength (a : Arithmetic) (width height : UInt32) (bytes : List UInt8) :
    Except ReadbackFault Unit :=
  match frameLength? a width height with
  | none => .error .overflow
  | some expected =>
    if bytes.length = expected then .ok ()
    else .error (.length bytes.length expected width height)

theorem checkLength_eq_ok_iff {a : Arithmetic} {width height : UInt32} {bytes : List UInt8} :
    checkLength a width height bytes = .ok () ↔
      frameLength? a width height = some bytes.length := by
  unfold checkLength
  cases frameLength? a width height with
  | none => simp
  | some expected => simp [eq_comm]

theorem checkLength_checked_eq_ok_iff {width height : UInt32} {bytes : List UInt8} :
    checkLength .checked width height bytes = .ok () ↔
      bytes.length = 4 * width.toNat * height.toNat ∧
        4 * width.toNat * height.toNat < lengthLimit := by
  rw [checkLength_eq_ok_iff, frameLength?, Arithmetic.word?_checked_eq_some_iff, and_comm, eq_comm]

/-- The bytes from `start` up to before `stop`, if there are such. -/
def slice? (bytes : List UInt8) (start stop : Nat) : Option (List UInt8) :=
  if start ≤ stop ∧ stop ≤ bytes.length then some ((bytes.drop start).take (stop - start)) else none

/-- Row `y` of the bytes of an image, counted from the top; none where there is no such row. -/
def rowOf? (a : Arithmetic) (width : UInt32) (bytes : List UInt8) (y : UInt32) :
    Option (List UInt8) := do
  let start ← a.word? lengthLimit (y.toNat * rowLength width)
  let stop ← a.word? lengthLimit (start + rowLength width)
  slice? bytes start stop

/-- The pixel in column `x` of row `y` of the bytes of an image; none where there is no such
pixel. -/
def pixelOf? (a : Arithmetic) (width : UInt32) (bytes : List UInt8) (x y : UInt32) :
    Option Color := do
  let row ← rowOf? a width bytes y
  match row.drop (4 * x.toNat) with
  | red :: green :: blue :: alpha :: _ => some ⟨red, green, blue, alpha⟩
  | _ => none

/-- An image. -/
structure Pixels where
  width : UInt32
  height : UInt32
  bytes : List UInt8
  length_bytes : bytes.length = 4 * width.toNat * height.toNat
  fits : 4 * width.toNat * height.toNat < lengthLimit
  deriving DecidableEq

namespace Pixels

/-- The image of the given size that bytes make. -/
def ofBytes (width height : UInt32) (bytes : List UInt8) : Except ReadbackFault Pixels :=
  match accepted : checkLength .checked width height bytes with
  | .error fault => .error fault
  | .ok () =>
    have right := checkLength_checked_eq_ok_iff.1 accepted
    .ok ⟨width, height, bytes, right.1, right.2⟩

/-- An image of one colour. -/
def filled (width height : UInt32) (c : Color)
    (fits : 4 * width.toNat * height.toNat < lengthLimit) : Pixels where
  width := width
  height := height
  bytes := (List.replicate (height.toNat * width.toNat) c.bytes).flatten
  length_bytes := by
    simp [Color.bytes]
    rw [Nat.mul_comm, Nat.mul_comm height.toNat, Nat.mul_assoc]
  fits := fits

/-- The length that no list of bytes in memory reaches. -/
def memoryLimit : Nat := 0x8000000000000000

theorem lt_lengthLimit {n : Nat} (held : n < memoryLimit) : n < lengthLimit :=
  Nat.lt_trans held (by decide)

/-- An image of one colour, if memory could hold it. -/
def filled? (width height : UInt32) (c : Color) : Option Pixels :=
  if held : 4 * width.toNat * height.toNat < memoryLimit then
    some (filled width height c (lt_lengthLimit held))
  else none

def size (p : Pixels) : UInt32 × UInt32 := (p.width, p.height)

/-- Row `y`, counted from the top; none where there is no such row. -/
def row? (p : Pixels) (y : UInt32) : Option (List UInt8) := rowOf? .checked p.width p.bytes y

/-- The pixel in column `x` of row `y`; none where there is no such pixel. -/
def pixel? (p : Pixels) (x y : UInt32) : Option Color := pixelOf? .checked p.width p.bytes x y

/-- Whether all groups of four bytes are the given colour. -/
def allEqual (c : Color) : List UInt8 → Bool
  | red :: green :: blue :: alpha :: rest => ⟨red, green, blue, alpha⟩ == c && allEqual c rest
  | _ => true

/-- Whether every pixel has the given colour. -/
def isUniform (p : Pixels) (c : Color) : Bool := allEqual c p.bytes

/-- How an image shows itself without its bytes. -/
def summary (p : Pixels) : String :=
  "PixelBuffer \x7b width: " ++ toString p.width.toNat ++ ", height: " ++ toString p.height.toNat ++
    ", bytes: " ++ toString p.bytes.length ++ " \x7d"

end Pixels

end ShaderFilm.Render
