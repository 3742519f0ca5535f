import ShaderFilm.Proofs.Render.Views

/-!
# Images whose length is no word

The number of bytes that an image must have is counted in 64-bit words.  If it is no word, the
program stops instead of refusing the bytes.  Were it to count modulo 2^64, it would accept bytes
that end before the rows do, and the row in which they end could not be read
(`exists_rowOf?_eq_none`).  So all rows and pixels of bytes that are accepted can be read just if
the length of the image is a word (`forall_rowOf?_iff`, `forall_pixelOf?_iff`).
-/

namespace ShaderFilm.Render

open ShaderFilm.Number (Arithmetic)

theorem rowLength_lt (width : UInt32) : rowLength width < lengthLimit := by
  have := width.toNat_lt
  unfold rowLength lengthLimit
  omega

theorem width_pos_of_carry {width height : UInt32}
    (carry : lengthLimit ≤ 4 * width.toNat * height.toNat) : 0 < width.toNat := by
  refine Nat.pos_of_ne_zero fun none => ?_
  rw [none, Nat.mul_zero, Nat.zero_mul] at carry
  exact absurd carry (by decide)

section Accepted

variable {a : Arithmetic} {width height y : UInt32} {bytes : List UInt8}

/-- A row is not found in which the bytes end, also where its end is counted from zero again. -/
theorem rowOf?_eq_none (held : bytes.length < lengthLimit)
    (begins : y.toNat * rowLength width ≤ bytes.length)
    (ends : bytes.length < y.toNat * rowLength width + rowLength width) :
    rowOf? a width bytes y = none := by
  have first := a.word?_of_lt (Nat.lt_of_le_of_lt begins held)
  have short := rowLength_lt width
  simp only [rowOf?, first, Option.bind_eq_bind, Option.bind_some]
  by_cases fits : y.toNat * rowLength width + rowLength width < lengthLimit
  · rw [a.word?_of_lt fits, Option.bind_some]
    exact if_neg (by omega)
  · cases a with
    | checked => rw [Arithmetic.word?_checked_of_le (Nat.le_of_not_lt fits), Option.bind_none]
    | wrapping =>
      refine if_neg ?_
      unfold lengthLimit at *
      omega

theorem length_lt_of_checkLength (accepted : checkLength a width height bytes = .ok ()) :
    bytes.length < lengthLimit :=
  Arithmetic.lt_of_word?_eq_some (checkLength_eq_ok_iff.1 accepted) (by decide)

/-- Bytes that are accepted are as many as the image has just if that number is a word. -/
theorem length_eq_iff_of_checkLength (accepted : checkLength a width height bytes = .ok ()) :
    bytes.length = 4 * width.toNat * height.toNat ↔
      4 * width.toNat * height.toNat < lengthLimit :=
  Arithmetic.eq_iff_of_word?_eq_some (checkLength_eq_ok_iff.1 accepted) (by decide)

/-- Bytes that are fewer than the image has end inside of one of its rows. -/
theorem exists_rowOf?_eq_none (accepted : checkLength a width height bytes = .ok ())
    (carry : lengthLimit ≤ 4 * width.toNat * height.toNat) :
    ∃ y < height, rowOf? a width bytes y = none := by
  have held := length_lt_of_checkLength accepted
  have wide : 0 < rowLength width := Nat.mul_pos (by decide) (width_pos_of_carry carry)
  have broken : bytes.length / rowLength width < height.toNat :=
    Nat.div_lt_of_lt_mul (held.trans_le carry)
  have y : (UInt32.ofNat (bytes.length / rowLength width)).toNat = bytes.length / rowLength width :=
    UInt32.toNat_ofNat_of_lt' (broken.trans height.toNat_lt)
  refine ⟨.ofNat (bytes.length / rowLength width), ?_, rowOf?_eq_none held ?_ ?_⟩
  · rw [UInt32.lt_iff_toNat_lt, y]
    exact broken
  · rw [y]
    exact Nat.div_mul_le_self _ _
  · rw [y]
    exact Nat.lt_div_mul_add wide

theorem row_end_le_length (accepted : checkLength a width height bytes = .ok ())
    (fits : 4 * width.toNat * height.toNat < lengthLimit) (inside : y < height) :
    y.toNat * rowLength width + rowLength width ≤ bytes.length := by
  rw [(length_eq_iff_of_checkLength accepted).2 fits]
  exact row_end_le width (UInt32.lt_iff_toNat_lt.1 inside)

/-- All rows of bytes that are accepted can be read just if the length of the image is a word. -/
theorem forall_rowOf?_iff (accepted : checkLength a width height bytes = .ok ()) :
    (∀ y < height, ∃ row, rowOf? a width bytes y = some row ∧ row.length = 4 * width.toNat) ↔
      4 * width.toNat * height.toNat < lengthLimit := by
  constructor
  · intro readable
    by_contra carry
    obtain ⟨y, inside, unread⟩ := exists_rowOf?_eq_none accepted (Nat.le_of_not_lt carry)
    obtain ⟨row, read, -⟩ := readable y inside
    cases unread.symm.trans read
  · intro fits y inside
    have whole := row_end_le_length accepted fits inside
    refine ⟨_, rowOf?_eq_some a whole (length_lt_of_checkLength accepted), ?_⟩
    rw [List.length_take, List.length_drop]
    exact Nat.min_eq_left (Nat.le_sub_of_add_le' whole)

/-- All pixels of bytes that are accepted can be read just if the length of the image is a word. -/
theorem forall_pixelOf?_iff (accepted : checkLength a width height bytes = .ok ()) :
    (∀ x < width, ∀ y < height, ∃ c, pixelOf? a width bytes x y = some c) ↔
      4 * width.toNat * height.toNat < lengthLimit := by
  constructor
  · intro readable
    by_contra carry
    have carry := Nat.le_of_not_lt carry
    obtain ⟨y, inside, unread⟩ := exists_rowOf?_eq_none accepted carry
    have first : 0 < width := UInt32.lt_iff_toNat_lt.2 (width_pos_of_carry carry)
    obtain ⟨c, read⟩ := readable 0 first y inside
    rw [pixelOf?, unread] at read
    cases read
  · intro fits x column y inside
    have pixel := bytes_pixelOf? a (UInt32.lt_iff_toNat_lt.1 column)
      (row_end_le_length accepted fits inside) (length_lt_of_checkLength accepted)
    obtain ⟨c, read, -⟩ := Option.map_eq_some_iff.1 pixel
    exact ⟨c, read⟩

end Accepted

namespace Pixels

variable {width height : UInt32} {bytes : List UInt8}

theorem ofBytes_of_checkLength {fault : ReadbackFault}
    (refused : checkLength .checked width height bytes = .error fault) :
    ofBytes width height bytes = .error fault := by
  unfold ofBytes
  split
  · next other =>
    cases refused.symm.trans other
    rfl
  · next accepted => cases refused.symm.trans accepted

theorem ofBytes_of_length_ne (fits : 4 * width.toNat * height.toNat < lengthLimit)
    (wrong : bytes.length ≠ 4 * width.toNat * height.toNat) :
    ofBytes width height bytes =
      .error (.length bytes.length (4 * width.toNat * height.toNat) width height) := by
  refine ofBytes_of_checkLength ?_
  have expected := Arithmetic.checked.word?_of_lt fits
  rw [checkLength, frameLength?, expected]
  exact if_neg wrong

/-- The program does not refuse bytes for an image whose length is no word: it stops. -/
theorem ofBytes_of_carry (carry : lengthLimit ≤ 4 * width.toNat * height.toNat) :
    ofBytes width height bytes = .error .overflow := by
  refine ofBytes_of_checkLength ?_
  rw [checkLength, frameLength?, Arithmetic.word?_checked_of_le carry]

/-- Bytes make an image if their number is right.  They are refused if it is wrong, unless the right
number is no word, at which the program stops.  Were it to count modulo 2^64, it would accept bytes
whose number is right up to a multiple of 2^64.  However it counts, the number of bytes that it
accepts is right, and all rows and pixels can be read, just if the right number is a word. -/
theorem ofBytes_readable (width height : UInt32) (bytes : List UInt8) :
    let length := 4 * width.toNat * height.toNat
    ((∃ p, ofBytes width height bytes = .ok p) ↔ bytes.length = length ∧ length < lengthLimit) ∧
    (length < lengthLimit → bytes.length ≠ length →
      ofBytes width height bytes = .error (.length bytes.length length width height)) ∧
    (lengthLimit ≤ length → ofBytes width height bytes = .error .overflow) ∧
    (checkLength .wrapping width height bytes = .ok () ↔
      bytes.length = length % lengthLimit) ∧
    ∀ a, checkLength a width height bytes = .ok () →
      (bytes.length = length ↔ length < lengthLimit) ∧
      ((∀ y < height, ∃ row, rowOf? a width bytes y = some row ∧ row.length = 4 * width.toNat) ↔
        length < lengthLimit) ∧
      ((∀ x < width, ∀ y < height, ∃ c, pixelOf? a width bytes x y = some c) ↔
        length < lengthLimit) := by
  intro length
  refine ⟨exists_ofBytes_iff, ofBytes_of_length_ne, ofBytes_of_carry, ?_,
    fun a accepted => ⟨length_eq_iff_of_checkLength accepted, forall_rowOf?_iff accepted,
      forall_pixelOf?_iff accepted⟩⟩
  rw [checkLength_eq_ok_iff, eq_comm (a := bytes.length)]
  exact Option.some_inj

/-- Two pixels in a row can be read, and no bytes are not enough for them. -/
theorem ofBytes_readable_pair :
    (∃ p, ofBytes 2 1 [1, 2, 3, 4, 5, 6, 7, 8] = .ok p) ∧
      (∃ row, rowOf? .checked 2 [1, 2, 3, 4, 5, 6, 7, 8] 0 = some row ∧ row.length = 8) ∧
      (∃ c, pixelOf? .checked 2 [1, 2, 3, 4, 5, 6, 7, 8] 1 0 = some c) ∧
      ofBytes 2 1 [] = .error (.length 0 8 2 1) := by
  obtain ⟨made, -, -, -, readable⟩ := ofBytes_readable 2 1 [1, 2, 3, 4, 5, 6, 7, 8]
  obtain ⟨-, rows, pixels⟩ := readable .checked (checkLength_checked_eq_ok_iff.2 (by decide))
  obtain ⟨-, refused, -⟩ := ofBytes_readable 2 1 []
  exact ⟨made.2 (by decide), rows.2 (by decide) 0 (by decide),
    pixels.2 (by decide) 1 (by decide) 0 (by decide), refused (by decide) (by decide)⟩

/-- No bytes at all are not refused for an image of 2^31 columns and rows.  Where lengths are
counted modulo 2^64 they are accepted, and the first row and pixel cannot be read; otherwise the
program stops. -/
theorem ofBytes_nil_unreadable :
    checkLength .wrapping 0x80000000 0x80000000 [] = .ok () ∧
      ([] : List UInt8).length ≠ 4 * (0x80000000 : UInt32).toNat * (0x80000000 : UInt32).toNat ∧
      rowOf? .wrapping 0x80000000 [] 0 = none ∧ pixelOf? .wrapping 0x80000000 [] 0 0 = none ∧
      ofBytes 0x80000000 0x80000000 [] = .error .overflow :=
  ⟨rfl, by decide, rfl, rfl, ofBytes_of_carry (by decide)⟩

end Pixels

end ShaderFilm.Render
