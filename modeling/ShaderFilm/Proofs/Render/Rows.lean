import Mathlib.Data.Nat.Bitwise
import ShaderFilm.Device.Session
import ShaderFilm.Proofs.Render.Pixels

/-!
# The rows of a frame that is read back

The rows of a staging buffer begin at multiples of 256 bytes (`exists_alignUp?`), and each of them
holds a row of pixels in front of some padding.  Taking out the padding gives the rows one behind
the other (`tightRows?_eq_some_iff`), and turning them over puts the last of them on top
(`flipRows_flatten`).  So every pixel of the image comes from the place in the buffer where the
device put it, and no byte of the padding gets into it (`exists_readback`).
-/

namespace ShaderFilm.Render

open ShaderFilm.Device (Session rowAlignment)
open ShaderFilm.Number (Arithmetic)

/-! ### Alignment -/

/-- Clearing the low eight bits rounds down to a multiple of 256. -/
theorem toNat_clear (n : UInt32) : (n &&& ~~~255).toNat = n.toNat / 256 * 256 := by
  have mask : (~~~(255 : UInt32)).toNat = (2 ^ 24 - 1) * 2 ^ 8 := by decide
  have word : n.toNat / 2 ^ 8 < 2 ^ 24 := by
    have := n.toNat_lt
    omega
  rw [UInt32.toNat_and, mask]
  apply Nat.eq_of_testBit_eq
  intro i
  show _ = (n.toNat / 2 ^ 8 * 2 ^ 8).testBit i
  rw [Nat.testBit_and, Nat.testBit_mul_two_pow, Nat.testBit_mul_two_pow,
    Nat.testBit_two_pow_sub_one]
  by_cases high : 8 ≤ i
  · have same : n.toNat.testBit i = (n.toNat / 2 ^ 8).testBit (i - 8) := by
      rw [Nat.testBit_div_two_pow, Nat.sub_add_cancel high]
    rw [same]
    by_cases inside : i - 8 < 24
    · simp [high, inside]
    · have bound : n.toNat / 2 ^ 8 < 2 ^ (i - 8) :=
        Nat.lt_of_lt_of_le word (Nat.pow_le_pow_right (by decide) (Nat.le_of_not_lt inside))
      rw [Nat.testBit_lt_two_pow bound]
      simp
  · simp [high]

/-- Rounding up is adding and clearing. -/
theorem alignUp?_eq (a : Arithmetic) (value : UInt32) :
    alignUp? a value rowAlignment = (a.add? value 255).map (· &&& ~~~255) := by
  have mask : a.sub? rowAlignment 1 = some 255 := a.sub?_of_le (by decide)
  rw [alignUp?, mask, Option.map_eq_bind]
  rfl

/-- As long as no carry comes up, a length is rounded up to a multiple of 256. -/
theorem exists_alignUp? (a : Arithmetic) {value : UInt32}
    (fits : value.toNat + 255 < UInt32.size) :
    ∃ slot, alignUp? a value rowAlignment = some slot ∧
      slot.toNat = (value.toNat + 255) / 256 * 256 := by
  have sum : (value + 255).toNat = value.toNat + 255 := by
    rw [UInt32.toNat_add]
    exact Nat.mod_eq_of_lt fits
  refine ⟨(value + 255) &&& ~~~255, ?_, ?_⟩
  · rw [alignUp?_eq, a.add?_of_lt fits, Option.map_some]
  · rw [toNat_clear, sum]

/-! ### Rows of equal length -/

section Flatten

variable {α : Type} {rows : List (List α)} {length : Nat}

theorem length_flatten_of_rows (equal : ∀ row ∈ rows, row.length = length) :
    rows.flatten.length = rows.length * length := by
  induction rows with
  | nil => simp
  | cons row rest ih =>
    have first : row.length = length := equal row List.mem_cons_self
    have others := ih fun r mem => equal r (List.mem_cons_of_mem row mem)
    rw [List.flatten_cons, List.length_append, first, others, List.length_cons, Nat.succ_mul,
      Nat.add_comm]

theorem drop_flatten_of_rows (equal : ∀ row ∈ rows, row.length = length) (i : Nat) :
    rows.flatten.drop (i * length) = (rows.drop i).flatten := by
  induction i generalizing rows with
  | zero => simp
  | succ i ih =>
    cases rows with
    | nil => simp
    | cons row rest =>
      have first : row.length = length := equal row List.mem_cons_self
      have inner := ih fun r mem => equal r (List.mem_cons_of_mem row mem)
      have behind : (i + 1) * length = row.length + i * length := by
        rw [Nat.succ_mul, first, Nat.add_comm]
      rw [List.flatten_cons, behind, List.drop_length_add_append, List.drop_succ_cons, inner]

/-- Element `j` of row `i` stands behind `i` rows and `j` elements. -/
theorem getElem?_flatten_of_rows (equal : ∀ row ∈ rows, row.length = length) {row : List α}
    {i j : Nat} (here : rows[i]? = some row) (column : j < length) :
    rows.flatten[i * length + j]? = row[j]? := by
  obtain ⟨there, rfl⟩ := List.getElem?_eq_some_iff.1 here
  have wide : j < rows[i].length := by
    rw [equal _ (List.getElem_mem there)]
    exact column
  rw [← List.getElem?_drop, drop_flatten_of_rows equal, List.drop_eq_getElem_cons there,
    List.flatten_cons, List.getElem?_append_left wide]

/-- What stands inside of a row is found behind all the rows before it. -/
theorem take_drop_flatten_of_rows (equal : ∀ row ∈ rows, row.length = length) {i j n : Nat}
    (there : i < rows.length) (inside : j + n ≤ length) :
    (rows.flatten.drop (i * length + j)).take n = (rows[i].drop j).take n := by
  have here : rows[i].length = length := equal _ (List.getElem_mem there)
  have enough : n ≤ (rows[i].drop j).length := by
    rw [List.length_drop]
    omega
  rw [← List.drop_drop, drop_flatten_of_rows equal, List.drop_eq_getElem_cons there,
    List.flatten_cons, List.drop_append_of_le_length (by omega), List.take_append_of_le_length enough]

theorem cutRows_flatten {rows : List (List UInt8)} (equal : ∀ row ∈ rows, row.length = length) :
    cutRows length rows.length rows.flatten = rows := by
  induction rows with
  | nil => rfl
  | cons row rest ih =>
    have first : row.length = length := equal row List.mem_cons_self
    have others := ih fun r mem => equal r (List.mem_cons_of_mem row mem)
    rw [List.length_cons, List.flatten_cons, cutRows, ← first, List.take_left, List.drop_left,
      first, others]

end Flatten

/-! ### Padding -/

/-- The rows of `length` bytes that begin `padded` bytes apart. -/
def paddedRows (length padded height : Nat) (mapped : List UInt8) : List (List UInt8) :=
  (List.range height).map fun i => (mapped.drop (i * padded)).take length

theorem paddedRows_succ (length padded height : Nat) (mapped : List UInt8) :
    paddedRows length padded (height + 1) mapped =
      mapped.take length :: paddedRows length padded height (mapped.drop padded) := by
  have later (i : Nat) : (mapped.drop padded).drop (i * padded) = mapped.drop ((i + 1) * padded) := by
    rw [List.drop_drop, Nat.succ_mul, Nat.add_comm]
  simp [paddedRows, List.range_succ_eq_map, Function.comp_def, later]

section Padding

variable {length padded height : Nat} {mapped rows : List UInt8}

theorem length_of_mem_paddedRows_of_ends (ends : ∀ i < height, i * padded + length ≤ mapped.length) :
    ∀ row ∈ paddedRows length padded height mapped, row.length = length := by
  intro row mem
  obtain ⟨i, inside, rfl⟩ := List.mem_map.1 mem
  have whole := ends i (List.mem_range.1 inside)
  rw [List.length_take, List.length_drop]
  omega

theorem take?_eq_some_iff {n : Nat} {bytes front : List UInt8} :
    take? n bytes = some front ↔ n ≤ bytes.length ∧ bytes.take n = front := by
  rw [take?, Option.ite_none_right_eq_some, List.length_take, min_eq_left_iff, Option.some.injEq]

theorem drop?_eq_some_iff {n : Nat} {bytes rest : List UInt8} :
    drop? n bytes = some rest ↔ n ≤ bytes.length ∧ bytes.drop n = rest := by
  rw [drop?, Option.ite_none_right_eq_some, List.length_take, min_eq_left_iff, Option.some.injEq]

/-- The first row ends in time, and so do the others as seen from the second. -/
theorem forall_row_ends_iff :
    (∀ i < height + 2, i * padded + length ≤ mapped.length) ↔
      length ≤ mapped.length ∧ padded ≤ mapped.length ∧
        ∀ i < height + 1, i * padded + length ≤ (mapped.drop padded).length := by
  rw [List.length_drop]
  constructor
  · intro ends
    have first := ends 0 (by omega)
    have second := ends 1 (by omega)
    refine ⟨by omega, by omega, fun i inside => ?_⟩
    have next := ends (i + 1) (by omega)
    rw [Nat.succ_mul] at next
    omega
  · rintro ⟨first, enough, ends⟩ i inside
    cases i with
    | zero => omega
    | succ i =>
      have before := ends i (by omega)
      rw [Nat.succ_mul]
      omega

/-- Padding can be taken out just if no row ends behind the buffer. -/
theorem tightRows?_eq_some_iff :
    tightRows? length padded height mapped = some rows ↔
      (∀ i < height, i * padded + length ≤ mapped.length) ∧
        (paddedRows length padded height mapped).flatten = rows := by
  induction height generalizing mapped rows with
  | zero => simp [tightRows?, paddedRows]
  | succ height ih =>
    rw [paddedRows_succ, List.flatten_cons]
    cases height with
    | zero => simp [tightRows?, paddedRows, take?_eq_some_iff]
    | succ height =>
      simp only [tightRows?, Option.bind_eq_bind, Option.bind_eq_some_iff, take?_eq_some_iff,
        drop?_eq_some_iff, ih, forall_row_ends_iff, Option.some.injEq]
      constructor
      · rintro ⟨_, ⟨first, rfl⟩, _, ⟨enough, rfl⟩, _, ⟨ends, rfl⟩, rfl⟩
        exact ⟨⟨first, enough, ends⟩, rfl⟩
      · rintro ⟨⟨first, enough, ends⟩, rfl⟩
        exact ⟨_, ⟨first, rfl⟩, _, ⟨enough, rfl⟩, _, ⟨ends, rfl⟩, rfl⟩

/-- In a buffer that is long enough no row ends too late. -/
theorem row_ends (shorter : length ≤ padded) (enough : height * padded ≤ mapped.length) :
    ∀ i < height, i * padded + length ≤ mapped.length := by
  intro i inside
  have ends : (i + 1) * padded ≤ mapped.length := (Nat.mul_le_mul_right padded inside).trans enough
  rw [Nat.succ_mul] at ends
  omega

theorem length_of_mem_paddedRows (shorter : length ≤ padded)
    (enough : height * padded ≤ mapped.length) :
    ∀ row ∈ paddedRows length padded height mapped, row.length = length :=
  length_of_mem_paddedRows_of_ends (row_ends shorter enough)

/-- A buffer that is long enough has all of its rows. -/
theorem tightRows?_eq_some (shorter : length ≤ padded) (enough : height * padded ≤ mapped.length) :
    tightRows? length padded height mapped =
      some (paddedRows length padded height mapped).flatten :=
  tightRows?_eq_some_iff.2 ⟨row_ends shorter enough, rfl⟩

end Padding

/-! ### Turning over -/

/-- Rows of the right length and number make an image, the last of them on top. -/
theorem flipRows_flatten {width height : UInt32} {rows : List (List UInt8)}
    (fits : 4 * width.toNat * height.toNat < lengthLimit) (count : rows.length = height.toNat)
    (equal : ∀ row ∈ rows, row.length = rowLength width) :
    ∃ p, flipRows width height rows.flatten = .ok p ∧ p.size = (width, height) ∧
      p.bytes = rows.reverse.flatten := by
  have whole : rows.flatten.length = rowLength width * height.toNat := by
    rw [length_flatten_of_rows equal, count, Nat.mul_comm]
  have turned : reverseRows width height rows.flatten = rows.reverse.flatten := by
    rw [reverseRows, ← count, cutRows_flatten equal, count, ← whole, List.drop_length,
      List.append_nil]
  have length : rows.reverse.flatten.length = 4 * width.toNat * height.toNat := by
    have equal' : ∀ row ∈ rows.reverse, row.length = rowLength width :=
      fun row mem => equal row (List.mem_reverse.1 mem)
    rw [length_flatten_of_rows equal', List.length_reverse, count, Nat.mul_comm]
    rfl
  refine ⟨⟨width, height, rows.reverse.flatten, length, fits⟩, ?_, rfl, rfl⟩
  rw [flipRows, if_neg (by omega), turned]
  exact Pixels.ofBytes_eq_ok_iff.2 ⟨rfl, rfl⟩

/-! ### Reading back -/

theorem rowBytes?_eq_some {width : UInt32} (fits : rowLength width < UInt32.size) :
    ∃ rowBytes, Session.rowBytes? width = some rowBytes ∧ rowBytes.toNat = rowLength width := by
  exact ⟨UInt32.ofNat (rowLength width), if_pos fits, Nat.mod_eq_of_lt fits⟩

/-- Rows that agree but for their padding are the same without it. -/
theorem paddedRows_congr {length padded height : Nat} {mapped other : List UInt8}
    (same : ∀ i < height, ∀ j < length, other[i * padded + j]? = mapped[i * padded + j]?) :
    paddedRows length padded height other = paddedRows length padded height mapped := by
  refine List.map_congr_left fun i mem => List.ext_getElem? fun j => ?_
  rw [List.getElem?_take, List.getElem?_take, List.getElem?_drop, List.getElem?_drop]
  split
  · next inside => exact same i (List.mem_range.1 mem) j inside
  · rfl

/-- The bytes of a pixel stand in the row of the buffer that is as far from its end as the row of
the pixel is from the top. -/
theorem take_drop_paddedRows {length padded height i j : Nat} {mapped : List UInt8}
    (shorter : length ≤ padded) (enough : height * padded ≤ mapped.length) (row : i < height)
    (inside : j + 4 ≤ length) :
    ((paddedRows length padded height mapped).reverse.flatten.drop (i * length + j)).take 4 =
      (mapped.drop ((height - 1 - i) * padded + j)).take 4 := by
  have equal : ∀ row ∈ (paddedRows length padded height mapped).reverse, row.length = length :=
    fun row mem => length_of_mem_paddedRows shorter enough row (List.mem_reverse.1 mem)
  have count : (paddedRows length padded height mapped).length = height := by simp [paddedRows]
  have there : i < (paddedRows length padded height mapped).reverse.length := by
    rw [List.length_reverse, count]
    exact row
  have short : min 4 (length - j) = 4 := by omega
  rw [take_drop_flatten_of_rows equal there inside, List.getElem_reverse]
  simp only [count]
  simp only [paddedRows, List.getElem_map, List.getElem_range]
  rw [List.drop_take, List.take_take, short, List.drop_drop]

/-- Reading back never fails.  It gives the image of the right size, in which each pixel is the four
bytes at its place in the buffer: the last row of the buffer is the top one of the image.  A buffer
that differs in the padding only gives the same. -/
theorem exists_readback {width height : UInt32} (rowFits : 4 * width.toNat + 255 < UInt32.size)
    (frameFits : 4 * width.toNat * height.toNat < lengthLimit) :
    ∃ rowBytes slot, Session.rowBytes? width = some rowBytes ∧
      rowBytes.toNat = 4 * width.toNat ∧ alignUp? .checked rowBytes rowAlignment = some slot ∧
      let padded := slot.toNat
      padded = (4 * width.toNat + 255) / 256 * 256 ∧
      ∀ mapped : List UInt8, padded * height.toNat ≤ mapped.length →
        ∃ rows p, tightRows? rowBytes.toNat padded height.toNat mapped = some rows ∧
          flipRows width height rows = .ok p ∧ p.size = (width, height) ∧
          p.bytes.length = 4 * width.toNat * height.toNat ∧
          (∀ x y : UInt32, x < width → y < height →
            (p.pixel? x y).map Color.bytes = some ((mapped.drop
              ((height.toNat - 1 - y.toNat) * padded + 4 * x.toNat)).take 4)) ∧
          ∀ other : List UInt8, padded * height.toNat ≤ other.length →
            (∀ i < height.toNat, ∀ j < 4 * width.toNat,
              other[i * padded + j]? = mapped[i * padded + j]?) →
            tightRows? rowBytes.toNat padded height.toNat other = some rows := by
  have fits : rowLength width + 255 < UInt32.size := rowFits
  obtain ⟨rowBytes, found, length⟩ : ∃ rowBytes, Session.rowBytes? width = some rowBytes ∧
    rowBytes.toNat = rowLength width := rowBytes?_eq_some (by omega)
  have sum : rowBytes.toNat + 255 < UInt32.size := by omega
  obtain ⟨slot, aligned, rounded⟩ := exists_alignUp? .checked sum
  rw [length] at rounded
  refine ⟨rowBytes, slot, found, length, aligned, rounded, ?_⟩
  intro mapped enough
  have shorter : rowLength width ≤ slot.toNat := by omega
  rw [Nat.mul_comm] at enough
  have equal := length_of_mem_paddedRows shorter enough
  have count : (paddedRows (rowLength width) slot.toNat height.toNat mapped).length =
      height.toNat := by
    simp [paddedRows]
  obtain ⟨p, flipped, size, bytes⟩ := flipRows_flatten frameFits count equal
  obtain ⟨rfl, rfl⟩ : p.width = width ∧ p.height = height := Prod.mk.inj size
  refine ⟨_, p, ?_, flipped, size, ?_, ?_, ?_⟩
  · rw [length, tightRows?_eq_some shorter enough]
  · exact p.length_bytes
  · intro x y column row
    have column' := UInt32.lt_iff_toNat_lt.1 column
    have row' := UInt32.lt_iff_toNat_lt.1 row
    have inside : 4 * x.toNat + 4 ≤ rowLength p.width := by
      unfold rowLength
      omega
    rw [Pixels.bytes_pixel? column' row', bytes,
      take_drop_paddedRows shorter enough row' inside]
  · intro other enough' same
    rw [Nat.mul_comm] at enough'
    have rows : paddedRows (rowLength p.width) slot.toNat p.height.toNat other =
        paddedRows (rowLength p.width) slot.toNat p.height.toNat mapped := paddedRows_congr same
    rw [length, tightRows?_eq_some shorter enough', rows]

/-- A frame of one column and three rows, with the middle one in its place. -/
theorem exists_readback_column :
    let pad := List.replicate 252 (0xEE : UInt8)
    let mapped := [1, 2, 3, 4] ++ pad ++ [5, 6, 7, 8] ++ pad ++ [9, 10, 11, 12] ++ pad
    4 * (1 : UInt32).toNat + 255 < UInt32.size ∧
      4 * (1 : UInt32).toNat * (3 : UInt32).toNat < lengthLimit ∧
      ∃ rows p, tightRows? 4 256 3 mapped = some rows ∧ flipRows 1 3 rows = .ok p ∧
        (p.pixel? 0 0).map Color.bytes = some [9, 10, 11, 12] ∧
        (p.pixel? 0 1).map Color.bytes = some [5, 6, 7, 8] ∧
        (p.pixel? 0 2).map Color.bytes = some [1, 2, 3, 4] := by
  intro pad mapped
  have rowFits : 4 * (1 : UInt32).toNat + 255 < UInt32.size := by decide
  have frameFits : 4 * (1 : UInt32).toNat * (3 : UInt32).toNat < lengthLimit := by decide
  refine ⟨rowFits, frameFits, ?_⟩
  obtain ⟨rowBytes, slot, -, length, aligned, -, read⟩ := exists_readback rowFits frameFits
  obtain rfl : rowBytes = 4 := UInt32.toNat_inj.1 length
  obtain rfl : slot = 256 := Option.some.inj (aligned.symm.trans (by decide))
  obtain ⟨rows, p, tight, flipped, -, -, pixels, -⟩ := read mapped (by decide +kernel)
  refine ⟨rows, p, tight, flipped, ?_, ?_, ?_⟩
  · exact (pixels 0 0 (by decide) (by decide)).trans (by decide +kernel)
  · exact (pixels 0 1 (by decide) (by decide)).trans (by decide +kernel)
  · exact (pixels 0 2 (by decide) (by decide)).trans (by decide +kernel)

end ShaderFilm.Render
