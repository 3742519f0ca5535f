import Mathlib.Tactic.Ring
import ShaderFilm.Render.Pixels

/-!
# The pixels of an image

The rows and pixels of an image are where one expects them, since their places are no greater than
its length: row `y` begins behind `y` rows (`Pixels.row?_eq_some`), and a pixel is four bytes of its
row (`Pixels.bytes_pixel?`).
-/

namespace ShaderFilm.Render

open ShaderFilm.Number (Arithmetic)

/-! ### Bytes in a row -/

theorem slice?_eq_some {bytes : List UInt8} {start length : Nat}
    (inside : start + length ≤ bytes.length) :
    slice? bytes start (start + length) = some ((bytes.drop start).take length) := by
  have ends : start ≤ start + length ∧ start + length ≤ bytes.length := ⟨by omega, inside⟩
  have count : start + length - start = length := by omega
  rw [slice?, if_pos ends, count]

section Places

variable {width x y : UInt32} {bytes : List UInt8}

/-- However places are counted, a row is found whose end is a place of the bytes. -/
theorem rowOf?_eq_some (a : Arithmetic)
    (whole : y.toNat * rowLength width + rowLength width ≤ bytes.length)
    (held : bytes.length < lengthLimit) :
    rowOf? a width bytes y =
      some ((bytes.drop (y.toNat * rowLength width)).take (rowLength width)) := by
  have first := a.word?_of_lt (show y.toNat * rowLength width < lengthLimit by omega)
  have last := a.word?_of_lt (Nat.lt_of_le_of_lt whole held)
  simp only [rowOf?, first, last, Option.bind_eq_bind, Option.bind_some]
  exact slice?_eq_some whole

/-- The first four bytes are a colour. -/
theorem bytes_front {bytes : List UInt8} (enough : 4 ≤ bytes.length) :
    (match bytes with
      | red :: green :: blue :: alpha :: _ => some (⟨red, green, blue, alpha⟩ : Color)
      | _ => none).map Color.bytes = some (bytes.take 4) := by
  match bytes, enough with
  | red :: green :: blue :: alpha :: rest, _ => rfl

/-- However places are counted, a pixel is the four bytes behind those of the pixels before it in
its row. -/
theorem bytes_pixelOf? (a : Arithmetic) (column : x.toNat < width.toNat)
    (whole : y.toNat * rowLength width + rowLength width ≤ bytes.length)
    (held : bytes.length < lengthLimit) :
    (pixelOf? a width bytes x y).map Color.bytes =
      some ((bytes.drop (y.toNat * rowLength width + 4 * x.toNat)).take 4) := by
  have four : 4 * x.toNat + 4 ≤ rowLength width := by
    unfold rowLength
    omega
  have short : min 4 (rowLength width - 4 * x.toNat) = 4 := by omega
  have enough : 4 ≤ ((bytes.drop (y.toNat * rowLength width + 4 * x.toNat)).take
      (rowLength width - 4 * x.toNat)).length := by
    rw [List.length_take, List.length_drop]
    omega
  have front := bytes_front enough
  rw [List.take_take, short, ← List.drop_drop, ← List.drop_take] at front
  rw [pixelOf?, rowOf?_eq_some a whole held, ← List.drop_drop]
  exact front

end Places

/-! ### Rows and pixels -/

/-- Row `y` ends before the image does. -/
theorem row_end_le (width : UInt32) {height y : UInt32} (inside : y.toNat < height.toNat) :
    y.toNat * rowLength width + rowLength width ≤ 4 * width.toNat * height.toNat := by
  have next : y.toNat + 1 ≤ height.toNat := inside
  calc
    y.toNat * rowLength width + rowLength width = (y.toNat + 1) * rowLength width := by ring
    _ ≤ height.toNat * rowLength width := Nat.mul_le_mul_right _ next
    _ = 4 * width.toNat * height.toNat := Nat.mul_comm _ _

namespace Pixels

variable {p : Pixels} {x y : UInt32}

theorem ofBytes_eq_ok_iff {width height : UInt32} {bytes : List UInt8} :
    ofBytes width height bytes = .ok p ↔ p.size = (width, height) ∧ p.bytes = bytes := by
  constructor
  · intro made
    unfold ofBytes at made
    split at made
    · cases made
    · obtain rfl := Except.ok.inj made
      exact ⟨rfl, rfl⟩
  · rintro ⟨size, rfl⟩
    obtain ⟨rfl, rfl⟩ : p.width = width ∧ p.height = height := Prod.mk.inj size
    have accepted := checkLength_checked_eq_ok_iff.2 ⟨p.length_bytes, p.fits⟩
    unfold ofBytes
    split
    · simp_all
    · rfl

theorem length_lt (p : Pixels) : p.bytes.length < lengthLimit := p.length_bytes ▸ p.fits

theorem row_le_length (inside : y.toNat < p.height.toNat) :
    y.toNat * rowLength p.width + rowLength p.width ≤ p.bytes.length :=
  p.length_bytes ▸ row_end_le p.width inside

theorem row?_eq_some (inside : y.toNat < p.height.toNat) :
    p.row? y = some ((p.bytes.drop (y.toNat * rowLength p.width)).take (rowLength p.width)) :=
  rowOf?_eq_some .checked (row_le_length inside) p.length_lt

/-- The pixel in column `x` of row `y` is four bytes, which stand behind `y` rows and `x` pixels. -/
theorem bytes_pixel? (column : x.toNat < p.width.toNat) (inside : y.toNat < p.height.toNat) :
    (p.pixel? x y).map Color.bytes =
      some ((p.bytes.drop (y.toNat * rowLength p.width + 4 * x.toNat)).take 4) :=
  bytes_pixelOf? .checked column (row_le_length inside) p.length_lt

end Pixels

end ShaderFilm.Render
