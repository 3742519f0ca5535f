import Mathlib.Order.Bounds.Basic
import ShaderFilm.Proofs.Render.Rows

/-!
# The slots of a staging buffer

Each row of a frame has a slot of its own in the staging buffer.  Taking out the padding gives the
bytes at the beginning of each slot (`tightRows?_eq_some_iff`, `getElem?_tightRows`), so a row stays
inside of its slot as long as slots are not shorter than rows.  A slot is the least multiple of 256
bytes that holds a row just if rounding up its length needs no carry
(`exists_isLeast_alignUp?_iff`).  Otherwise the program stops, and a slot would have no bytes at all
if it did not (`alignUp?_checked_of_carry`, `alignUp?_wrapping_of_carry`).
-/

namespace ShaderFilm.Render

open ShaderFilm.Device (Session rowAlignment)
open ShaderFilm.Number (Arithmetic)

/-! ### The length of a slot -/

section Carry

variable {value slot : UInt32} {a : Arithmetic}

theorem alignUp?_checked_of_carry (carry : UInt32.size ≤ value.toNat + 255) :
    alignUp? .checked value rowAlignment = none := by
  rw [alignUp?_eq, Arithmetic.add?_checked_of_le carry, Option.map_none]

/-- Where the carry is lost, nothing is left of a length. -/
theorem alignUp?_wrapping_of_carry (carry : UInt32.size ≤ value.toNat + 255) :
    alignUp? .wrapping value rowAlignment = some 0 := by
  have sum : (value + 255).toNat < 256 := by
    have := value.toNat_lt
    rw [UInt32.toNat_add]
    show (value.toNat + 255) % 2 ^ 32 < 256
    unfold UInt32.size at carry
    omega
  have nothing : (value + 255) &&& ~~~255 = 0 := by
    rw [← UInt32.toNat_inj, toNat_clear, Nat.div_eq_of_lt sum, Nat.zero_mul]
    rfl
  rw [alignUp?_eq, Arithmetic.add?_wrapping, Option.map_some, nothing]

/-- Where no carry comes up, a length is rounded up to the least multiple of 256. -/
theorem isLeast_of_alignUp? (fits : value.toNat + 255 < UInt32.size)
    (aligned : alignUp? a value rowAlignment = some slot) :
    IsLeast {n | 256 ∣ n ∧ value.toNat ≤ n} slot.toNat := by
  obtain ⟨_, same, rounded⟩ := exists_alignUp? a fits
  obtain rfl := Option.some.inj (aligned.symm.trans same)
  rw [rounded]
  refine ⟨⟨Nat.dvd_mul_left 256 _, by omega⟩, ?_⟩
  rintro n ⟨⟨k, rfl⟩, holds⟩
  omega

theorem exists_isLeast_alignUp?_iff (a : Arithmetic) :
    (∃ slot, alignUp? a value rowAlignment = some slot ∧
        IsLeast {n | 256 ∣ n ∧ value.toNat ≤ n} slot.toNat) ↔
      value.toNat + 255 < UInt32.size := by
  constructor
  · rintro ⟨slot, aligned, ⟨-, holds⟩, -⟩
    by_contra overflows
    have carry := Nat.le_of_not_lt overflows
    cases a with
    | checked => cases aligned.symm.trans (alignUp?_checked_of_carry carry)
    | wrapping =>
      obtain rfl := Option.some.inj (aligned.symm.trans (alignUp?_wrapping_of_carry carry))
      have none : value.toNat = 0 := Nat.le_zero.1 holds
      rw [none] at carry
      exact absurd carry (by decide)
  · intro fits
    obtain ⟨slot, aligned, -⟩ := exists_alignUp? a fits
    exact ⟨slot, aligned, isLeast_of_alignUp? fits aligned⟩

end Carry

/-! ### The bytes of a slot -/

section Tight

variable {length padded height : Nat} {mapped rows : List UInt8}

/-- Byte `j` of row `i` is byte `j` of slot `i`. -/
theorem getElem?_tightRows (tight : tightRows? length padded height mapped = some rows) {i j : Nat}
    (row : i < height) (column : j < length) :
    rows[i * length + j]? = mapped[i * padded + j]? := by
  obtain ⟨ends, rfl⟩ := tightRows?_eq_some_iff.1 tight
  have here : (paddedRows length padded height mapped)[i]? =
      some ((mapped.drop (i * padded)).take length) := by
    simp [paddedRows, row]
  rw [getElem?_flatten_of_rows (length_of_mem_paddedRows_of_ends ends) here column,
    List.getElem?_take_of_lt column, List.getElem?_drop]

theorem length_tightRows (tight : tightRows? length padded height mapped = some rows) :
    rows.length = height * length := by
  obtain ⟨ends, rfl⟩ := tightRows?_eq_some_iff.1 tight
  rw [length_flatten_of_rows (length_of_mem_paddedRows_of_ends ends)]
  simp [paddedRows]

end Tight

theorem toNat_of_rowBytes? {width rowBytes : UInt32}
    (passes : Session.rowBytes? width = some rowBytes) : rowBytes.toNat = 4 * width.toNat := by
  obtain ⟨fits, same⟩ := Option.ite_none_right_eq_some.1 passes
  obtain rfl := Option.some.inj same
  exact Nat.mod_eq_of_lt fits

/-- A slot is the least multiple of 256 bytes that holds a row just if rounding up its length needs
no carry, however the program counts.  Otherwise it stops, or goes on with slots without bytes.  If
no carry is needed, the rows of a whole staging buffer can be taken out, each of them from its own
slot. -/
theorem slots_of_rowBytes {width rowBytes : UInt32}
    (passes : Session.rowBytes? width = some rowBytes) :
    rowBytes.toNat = 4 * width.toNat ∧
      (∀ a, (∃ slot, alignUp? a rowBytes rowAlignment = some slot ∧
          IsLeast {n | 256 ∣ n ∧ 4 * width.toNat ≤ n} slot.toNat) ↔
        4 * width.toNat + 255 < UInt32.size) ∧
      (UInt32.size ≤ 4 * width.toNat + 255 →
        alignUp? .checked rowBytes rowAlignment = none ∧
          alignUp? .wrapping rowBytes rowAlignment = some 0) ∧
      (4 * width.toNat + 255 < UInt32.size →
        (rowBytes + (rowAlignment - 1)).toNat = rowBytes.toNat + (rowAlignment - 1).toNat ∧
        ∀ a slot, alignUp? a rowBytes rowAlignment = some slot →
          ∀ (height : UInt32) (mapped : List UInt8),
            (height.toNat * slot.toNat ≤ mapped.length →
              ∃ rows, tightRows? rowBytes.toNat slot.toNat height.toNat mapped = some rows) ∧
            ∀ rows, tightRows? rowBytes.toNat slot.toNat height.toNat mapped = some rows →
              rows.length = height.toNat * (4 * width.toNat) ∧
              ∀ i < height.toNat, ∀ j < 4 * width.toNat,
                rows[i * (4 * width.toNat) + j]? = mapped[i * slot.toNat + j]? ∧
                  (i * slot.toNat + j) / slot.toNat = i) := by
  have length := toNat_of_rowBytes? passes
  rw [← length]
  refine ⟨rfl, exists_isLeast_alignUp?_iff,
    fun carry => ⟨alignUp?_checked_of_carry carry, alignUp?_wrapping_of_carry carry⟩,
    fun fits => ⟨?_, fun a slot aligned height mapped => ⟨fun whole => ?_, fun rows tight => ?_⟩⟩⟩
  · rw [UInt32.toNat_add]
    exact Nat.mod_eq_of_lt fits
  · exact ⟨_, tightRows?_eq_some (isLeast_of_alignUp? fits aligned).1.2 whole⟩
  · have holds : rowBytes.toNat ≤ slot.toNat := (isLeast_of_alignUp? fits aligned).1.2
    refine ⟨length_tightRows tight, fun i row j column => ⟨getElem?_tightRows tight row column, ?_⟩⟩
    rw [Nat.mul_comm, Nat.mul_add_div (by omega), Nat.div_eq_of_lt (by omega), Nat.add_zero]

/-- Two rows of 65 pixels, whose slots are of 512 bytes, with the last byte of the second row in its
place. -/
theorem slots_of_rowBytes_two :
    let mapped := List.replicate 512 (1 : UInt8) ++ List.replicate 512 2
    alignUp? .checked 260 rowAlignment = some 512 ∧ IsLeast {n | 256 ∣ n ∧ 260 ≤ n} 512 ∧
      ∃ rows, tightRows? 260 512 2 mapped = some rows ∧ rows[519]? = some 2 := by
  intro mapped
  have passes : Session.rowBytes? 65 = some 260 := by decide
  obtain ⟨-, least, -, apart⟩ := slots_of_rowBytes passes
  obtain ⟨slot, aligned, isLeast⟩ := (least .checked).2 (by decide)
  obtain rfl : slot = 512 := Option.some.inj (aligned.symm.trans (by decide))
  obtain ⟨found, read⟩ := (apart (by decide)).2 .checked 512 aligned 2 mapped
  obtain ⟨rows, tight⟩ := found (by decide +kernel)
  have byte := ((read rows tight).2 1 (by decide) 259 (by decide)).1
  exact ⟨aligned, isLeast, rows, tight, byte.trans (by decide +kernel)⟩

/-- The longest rows have no slots: the program stops when it looks for their length.  If it went
on, both of two rows would be taken from the first slot. -/
theorem slots_of_rowBytes_none :
    Session.rowBytes? 0x3FFFFFFF = some 0xFFFFFFFC ∧
      alignUp? .checked 0xFFFFFFFC rowAlignment = none ∧
      (¬∃ a slot, alignUp? a 0xFFFFFFFC rowAlignment = some slot ∧
        IsLeast {n | 256 ∣ n ∧ 4 * (0x3FFFFFFF : UInt32).toNat ≤ n} slot.toNat) ∧
      alignUp? .wrapping 0xFFFFFFFC rowAlignment = some 0 ∧
      ∀ mapped rows : List UInt8, tightRows? 0xFFFFFFFC 0 2 mapped = some rows →
        rows[0xFFFFFFFC]? = mapped[0]? := by
  refine ⟨by decide, by decide, ?_, by decide, fun mapped rows tight => ?_⟩
  · rintro ⟨a, slot, least⟩
    have carry : ¬(0xFFFFFFFC : UInt32).toNat + 255 < UInt32.size := by decide
    exact carry ((exists_isLeast_alignUp?_iff a).1 ⟨slot, least⟩)
  · exact getElem?_tightRows tight (i := 1) (j := 0) (by decide) (by decide)

end ShaderFilm.Render
