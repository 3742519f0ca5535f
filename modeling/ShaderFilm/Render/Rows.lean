import ShaderFilm.Render.Pixels

/-!
# Rows of a drawn frame

A device copies the rows of a frame with padding between them and with the lowest row of the picture
on top.  `tightRows?` takes the padding out, and `flipRows` puts the top row first.
-/

namespace ShaderFilm.Render

open ShaderFilm.Number (Arithmetic)

/-- The least multiple of `alignment` that is not below `value`, in 32-bit words, if `alignment` is
a power of two; none where the program stops. -/
def alignUp? (a : Arithmetic) (value alignment : UInt32) : Option UInt32 := do
  let mask ← a.sub? alignment 1
  let sum ← a.add? value mask
  some (sum &&& ~~~mask)

/-- The first `n` bytes, if there are so many. -/
def take? (n : Nat) (bytes : List UInt8) : Option (List UInt8) :=
  let front := bytes.take n
  if front.length = n then some front else none

/-- What is behind the first `n` bytes, if there are so many. -/
def drop? (n : Nat) (bytes : List UInt8) : Option (List UInt8) :=
  if (bytes.take n).length = n then some (bytes.drop n) else none

/-- The rows of `rowBytes` bytes that begin `padded` bytes apart, one behind the other; none if one
of them is not there. -/
def tightRows? (rowBytes padded : Nat) : (height : Nat) → List UInt8 → Option (List UInt8)
  | 0, _ => some []
  | 1, mapped => take? rowBytes mapped
  | height + 2, mapped => do
    let row ← take? rowBytes mapped
    let rest ← drop? padded mapped
    let rows ← tightRows? rowBytes padded (height + 1) rest
    some (row ++ rows)

/-- The first `count` rows of `stride` bytes. -/
def cutRows (stride : Nat) : (count : Nat) → List UInt8 → List (List UInt8)
  | 0, _ => []
  | count + 1, bytes => bytes.take stride :: cutRows stride count (bytes.drop stride)

/-- The bytes with the first `height` rows in reverse order. -/
def reverseRows (width height : UInt32) (bytes : List UInt8) : List UInt8 :=
  (cutRows (rowLength width) height.toNat bytes).reverse.flatten ++
    bytes.drop (rowLength width * height.toNat)

/-- The image whose rows are given from the lowest to the topmost. -/
def flipRows (width height : UInt32) (rows : List UInt8) : Except ReadbackFault Pixels :=
  if rows.length < rowLength width * height.toNat then .error .missingRows
  else Pixels.ofBytes width height (reverseRows width height rows)

end ShaderFilm.Render
