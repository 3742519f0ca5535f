import ShaderFilm.Proofs.Render.Length
import ShaderFilm.Proofs.Render.Slots

/-!
# Turning rows over, and taking them out of their slots

Bytes are turned over if the topmost of their rows is the lowest of others, the second one the last
but one, and so on (`IsTurned`).  There is one way to do it (`IsTurned.unique`) and it undoes itself
(`IsTurned.symm`).  It can be done in place, by exchanging rows from both ends inwards
(`turns_exchangeRows`).  Rows make an image just if there are exactly as many bytes as the image
has, and then the image is those bytes turned over (`flipRows_eq_ok_iff`).  Rows can be taken out of
their slots just if the bytes reach to the end of the last row, whose padding need not be there
(`exists_tightRows?_iff`).
-/

namespace ShaderFilm.Render

/-! ### Turned bytes -/

/-- Of `height` rows of `stride` bytes, each is as far from the top as it was from the bottom. -/
def IsTurned (stride height : Nat) (bytes turned : List UInt8) : Prop :=
  turned.length = bytes.length ∧
    ∀ y < height, ∀ k < stride, turned[y * stride + k]? = bytes[(height - 1 - y) * stride + k]?

instance (stride height : Nat) (bytes turned : List UInt8) :
    Decidable (IsTurned stride height bytes turned) :=
  inferInstanceAs (Decidable (_ ∧ _))

namespace IsTurned

variable {stride height : Nat} {bytes turned other : List UInt8}

theorem symm (turn : IsTurned stride height bytes turned) :
    IsTurned stride height turned bytes := by
  refine ⟨turn.1.symm, fun y row k column => ?_⟩
  have back : height - 1 - (height - 1 - y) = y := by omega
  have here := turn.2 (height - 1 - y) (by omega) k column
  rw [back] at here
  exact here.symm

/-- Each position is inside of a row, so nothing is left open by saying where the rows go. -/
theorem unique (whole : bytes.length = height * stride) (turn : IsTurned stride height bytes turned)
    (again : IsTurned stride height bytes other) : turned = other := by
  refine List.ext_getElem? fun i => ?_
  by_cases inside : i < height * stride
  · have wide : 0 < stride := Nat.pos_of_ne_zero fun none => by simp [none] at inside
    have column : i % stride < stride := Nat.mod_lt i wide
    have row : i / stride < height := Nat.div_lt_of_lt_mul (by rwa [Nat.mul_comm])
    rw [← Nat.div_add_mod' i stride, turn.2 _ row _ column, again.2 _ row _ column]
  · have outside : height * stride ≤ i := Nat.le_of_not_lt inside
    rw [List.getElem?_eq_none (by rwa [turn.1, whole]),
      List.getElem?_eq_none (by rwa [again.1, whole])]

end IsTurned

section Reverse

variable {width height : UInt32} {bytes : List UInt8}

theorem mul_rowLength (width height : UInt32) :
    height.toNat * rowLength width = 4 * width.toNat * height.toNat :=
  Nat.mul_comm _ _

theorem length_of_mem_reverse_cutRows (enough : 4 * width.toNat * height.toNat ≤ bytes.length) :
    ∀ row ∈ (cutRows (rowLength width) height.toNat bytes).reverse,
      row.length = rowLength width := by
  intro row mem
  rw [← mul_rowLength] at enough
  exact length_of_mem_cutRows enough row (List.mem_reverse.1 mem)

/-- Reversing the order of the rows turns them over, whatever stands behind them. -/
theorem isTurned_reverseRows (enough : 4 * width.toNat * height.toNat ≤ bytes.length) :
    IsTurned (rowLength width) height.toNat bytes (reverseRows width height bytes) := by
  have equal := length_of_mem_reverse_cutRows enough
  have length := length_flatten_of_rows equal
  rw [List.length_reverse, length_cutRows] at length
  refine ⟨?_, fun y row k column => ?_⟩
  · have held : height.toNat * rowLength width ≤ bytes.length := by rwa [mul_rowLength]
    rw [reverseRows, List.length_append, length, List.length_drop, Nat.mul_comm (rowLength width)]
    omega
  · have inside : y * rowLength width + k < height.toNat * rowLength width :=
      Pixels.position_lt column row
    have here : (cutRows (rowLength width) height.toNat bytes).reverse[y]? =
        some ((bytes.drop ((height.toNat - 1 - y) * rowLength width)).take (rowLength width)) := by
      rw [List.getElem?_reverse (by rwa [length_cutRows]), length_cutRows,
        getElem?_cutRows (by omega)]
    rw [reverseRows, List.getElem?_append_left (by rwa [length]),
      getElem?_flatten_of_rows equal here column, List.getElem?_take_of_lt column,
      List.getElem?_drop]

end Reverse

/-- A way of turning rows over, with any bytes behind them. -/
def Turns (width height : UInt32) (turn : List UInt8 → List UInt8) : Prop :=
  ∀ bytes : List UInt8, 4 * width.toNat * height.toNat ≤ bytes.length →
    IsTurned (rowLength width) height.toNat bytes (turn bytes)

/-! ### Exchanging rows -/

/-- The bytes with another row `i`. -/
def putRow (stride i : Nat) (row bytes : List UInt8) : List UInt8 :=
  bytes.take (i * stride) ++ (row ++ bytes.drop ((i + 1) * stride))

/-- The bytes with rows `i` and `j` exchanged. -/
def exchange (stride i j : Nat) (bytes : List UInt8) : List UInt8 :=
  putRow stride j ((bytes.drop (i * stride)).take stride)
    (putRow stride i ((bytes.drop (j * stride)).take stride) bytes)

/-- The bytes after the first `count` rows have been exchanged for the last ones, from both ends
inwards. -/
def exchangeRows (stride height : Nat) : (count : Nat) → List UInt8 → List UInt8
  | 0, bytes => bytes
  | count + 1, bytes =>
    exchange stride count (height - 1 - count) (exchangeRows stride height count bytes)

section Exchange

variable {stride height count i j y k : Nat} {row bytes : List UInt8}

theorem length_putRow (length : row.length = stride) (inside : (i + 1) * stride ≤ bytes.length) :
    (putRow stride i row bytes).length = bytes.length := by
  rw [Nat.succ_mul] at inside
  simp only [putRow, List.length_append, List.length_take, List.length_drop, length, Nat.succ_mul]
  omega

theorem getElem?_putRow (length : row.length = stride) (inside : (i + 1) * stride ≤ bytes.length)
    (column : k < stride) :
    (putRow stride i row bytes)[y * stride + k]? =
      if y = i then row[k]? else bytes[y * stride + k]? := by
  have front : (bytes.take (i * stride)).length = i * stride := by
    rw [Nat.succ_mul] at inside
    rw [List.length_take]
    omega
  rcases lt_trichotomy y i with before | rfl | behind
  · have there : y * stride + k < i * stride := Pixels.position_lt column before
    rw [if_neg before.ne, putRow, List.getElem?_append_left (by rwa [front]),
      List.getElem?_take_of_lt there]
  · rw [if_pos rfl, putRow, List.getElem?_append_right (by omega), front, Nat.add_sub_cancel_left,
      List.getElem?_append_left (by rwa [length])]
  · have there : (i + 1) * stride ≤ y * stride := Nat.mul_le_mul_right stride behind
    have rest : (i + 1) * stride + (y * stride + k - i * stride - stride) = y * stride + k := by
      rw [Nat.succ_mul] at *
      omega
    rw [Nat.succ_mul] at there
    rw [if_neg behind.ne', putRow, List.getElem?_append_right (by omega), front,
      List.getElem?_append_right (by omega), length, List.getElem?_drop, rest]

theorem length_row (inside : (i + 1) * stride ≤ bytes.length) :
    ((bytes.drop (i * stride)).take stride).length = stride := by
  rw [Nat.succ_mul] at inside
  rw [List.length_take, List.length_drop]
  omega

theorem length_exchange (first : (i + 1) * stride ≤ bytes.length)
    (second : (j + 1) * stride ≤ bytes.length) :
    (exchange stride i j bytes).length = bytes.length := by
  have half := length_putRow (length_row second) first
  rw [exchange, length_putRow (length_row first) (by rwa [half]), half]

/-- One exchange moves two rows and no other. -/
theorem getElem?_exchange (first : (i + 1) * stride ≤ bytes.length)
    (second : (j + 1) * stride ≤ bytes.length) (column : k < stride) :
    (exchange stride i j bytes)[y * stride + k]? =
      bytes[(if y = j then i else if y = i then j else y) * stride + k]? := by
  have half := length_putRow (length_row second) first
  rw [exchange, getElem?_putRow (length_row first) (by rwa [half]) column,
    getElem?_putRow (length_row second) first column]
  split_ifs
  · rw [List.getElem?_take_of_lt column, List.getElem?_drop]
  · rw [List.getElem?_take_of_lt column, List.getElem?_drop]
  · rfl

/-- After some exchanges, the rows at both ends are where they belong and all between are where they
were. -/
theorem getElem?_exchangeRows (enough : height * stride ≤ bytes.length)
    (apart : 2 * count ≤ height) :
    (exchangeRows stride height count bytes).length = bytes.length ∧
      ∀ y < height, ∀ k < stride, (exchangeRows stride height count bytes)[y * stride + k]? =
        bytes[(if y < count ∨ height - 1 - y < count then height - 1 - y else y) * stride +
          k]? := by
  induction count with
  | zero => simp [exchangeRows]
  | succ count ih =>
    obtain ⟨length, rows⟩ := ih (by omega)
    have whole (i : Nat) (inside : i < height) :
        (i + 1) * stride ≤ (exchangeRows stride height count bytes).length := by
      rw [length]
      exact (Nat.mul_le_mul_right stride inside).trans enough
    have first := whole count (by omega)
    have second := whole (height - 1 - count) (by omega)
    refine ⟨(length_exchange first second).trans length, fun y row k column => ?_⟩
    rw [exchangeRows, getElem?_exchange first second column]
    -- The two rows of this exchange have not been moved before.
    by_cases last : y = height - 1 - count
    · have mirror : height - 1 - y = count := by omega
      rw [if_pos last, rows count (by omega) k column, if_neg (by omega), if_pos (by omega), mirror]
    · by_cases here : y = count
      · rw [if_neg last, if_pos here, rows _ (by omega) k column, if_neg (by omega),
          if_pos (by omega), here]
      · have same : (y < count + 1 ∨ height - 1 - y < count + 1) ↔
            (y < count ∨ height - 1 - y < count) := by omega
        rw [if_neg last, if_neg here, rows y row k column]
        simp only [same]

/-- Exchanging half of the rows for the other half turns them over: where their number is odd, the
middle one is its own mirror image. -/
theorem turns_exchangeRows (width height : UInt32) :
    Turns width height
      (exchangeRows (rowLength width) height.toNat (height.toNat / 2)) := by
  intro bytes enough
  rw [← mul_rowLength] at enough
  obtain ⟨length, rows⟩ := getElem?_exchangeRows enough (Nat.mul_div_le height.toNat 2)
  refine ⟨length, fun y row k column => ?_⟩
  have mirrored : (if y < height.toNat / 2 ∨ height.toNat - 1 - y < height.toNat / 2
      then height.toNat - 1 - y else y) = height.toNat - 1 - y := by
    split <;> omega
  rw [rows y row k column, mirrored]

end Exchange

/-! ### Turned images -/

section Flip

variable {width height : UInt32} {bytes : List UInt8} {p : Pixels}

theorem flipRows_of_short (short : bytes.length < 4 * width.toNat * height.toNat) :
    flipRows width height bytes = .error .missingRows :=
  if_pos short

theorem flipRows_of_enough (enough : 4 * width.toNat * height.toNat ≤ bytes.length) :
    flipRows width height bytes = Pixels.ofBytes width height (reverseRows width height bytes) :=
  if_neg (Nat.not_lt.2 enough)

/-- Rows make an image just if they are as long as the image and this length fits a word.  The image
is the rows turned over. -/
theorem flipRows_eq_ok_iff :
    flipRows width height bytes = .ok p ↔
      4 * width.toNat * height.toNat < lengthLimit ∧ p.size = (width, height) ∧
        bytes.length = 4 * width.toNat * height.toNat ∧
        IsTurned (rowLength width) height.toNat bytes p.bytes := by
  constructor
  · intro flipped
    have enough : 4 * width.toNat * height.toNat ≤ bytes.length := by
      by_contra short
      rw [flipRows_of_short (Nat.lt_of_not_le short)] at flipped
      cases flipped
    have turned := isTurned_reverseRows enough
    rw [flipRows_of_enough enough] at flipped
    obtain ⟨size, same⟩ := Pixels.ofBytes_eq_ok_iff.1 flipped
    obtain ⟨rfl, rfl⟩ : p.width = width ∧ p.height = height := Prod.mk.inj size
    rw [← same] at turned
    exact ⟨p.fits, size, turned.1.symm.trans p.length_bytes, turned⟩
  · rintro ⟨-, size, length, turned⟩
    have whole : bytes.length = height.toNat * rowLength width := by rw [length, mul_rowLength]
    have same := turned.unique whole (isTurned_reverseRows length.ge)
    rw [flipRows_of_enough length.ge]
    exact Pixels.ofBytes_eq_ok_iff.2 ⟨size, same⟩

theorem exists_flipRows_iff (fits : 4 * width.toNat * height.toNat < lengthLimit) :
    (∃ p, flipRows width height bytes = .ok p) ↔
      bytes.length = 4 * width.toNat * height.toNat := by
  constructor
  · rintro ⟨p, flipped⟩
    obtain ⟨-, -, length, -⟩ := flipRows_eq_ok_iff.1 flipped
    exact length
  · intro length
    have turned := isTurned_reverseRows length.ge
    rw [flipRows_of_enough length.ge]
    exact Pixels.exists_ofBytes_iff.2 ⟨turned.1.trans length, fits⟩

/-- Turning an image over gives back its rows. -/
theorem flipRows_bytes (flipped : flipRows width height bytes = .ok p) :
    ∃ q, flipRows width height p.bytes = .ok q ∧ q.bytes = bytes := by
  obtain ⟨fits, -, length, turned⟩ := flipRows_eq_ok_iff.1 flipped
  refine ⟨⟨width, height, bytes, length, fits⟩, ?_, rfl⟩
  exact flipRows_eq_ok_iff.2 ⟨fits, rfl, turned.1.trans length, turned.symm⟩

/-- In which way the rows are turned over makes no difference. -/
theorem flipRows_eq_of_turns {turn : List UInt8 → List UInt8}
    (fits : 4 * width.toNat * height.toNat < lengthLimit) (turns : Turns width height turn) :
    flipRows width height bytes =
      if bytes.length < 4 * width.toNat * height.toNat then .error .missingRows
      else Pixels.ofBytes width height (turn bytes) := by
  rcases lt_trichotomy bytes.length (4 * width.toNat * height.toNat) with short | length | surplus
  · rw [if_pos short, flipRows_of_short short]
  · have whole : bytes.length = height.toNat * rowLength width := by rw [length, mul_rowLength]
    have same := (isTurned_reverseRows length.ge).unique whole (turns bytes length.ge)
    rw [if_neg (Nat.not_lt.2 length.ge), flipRows_of_enough length.ge, same]
  · have one := (isTurned_reverseRows surplus.le).1
    have other := (turns bytes surplus.le).1
    rw [if_neg (Nat.not_lt.2 surplus.le), flipRows_of_enough surplus.le,
      Pixels.ofBytes_of_length_ne fits (by omega), Pixels.ofBytes_of_length_ne fits (by omega), one,
      other]

end Flip

/-! ### Rows in their slots -/

section Tight

variable {length padded height : Nat} {mapped : List UInt8}

/-- The last row is the last one to end. -/
theorem forall_row_ends_iff_last (filled : 0 < height) :
    (∀ i < height, i * padded + length ≤ mapped.length) ↔
      (height - 1) * padded + length ≤ mapped.length := by
  constructor
  · intro ends
    exact ends (height - 1) (by omega)
  · intro last i inside
    have before : i * padded ≤ (height - 1) * padded := Nat.mul_le_mul_right padded (by omega)
    omega

theorem exists_tightRows?_iff (filled : 0 < height) :
    (∃ rows, tightRows? length padded height mapped = some rows) ↔
      (height - 1) * padded + length ≤ mapped.length := by
  simp only [tightRows?_eq_some_iff, forall_row_ends_iff_last filled, exists_and_left,
    exists_eq', and_true]

end Tight

/-- Rows make an image just if there are exactly as many bytes as the image has: of fewer it is said
that rows are missing, of more that the length is wrong.  The image is the rows turned over, in
whichever way that is done, and turning it over gives back the rows.  Rows can be taken out of their
slots just if the bytes reach to the end of the last row, and then byte `j` of row `i` is byte `j`
of slot `i`. -/
theorem flipRows_tightRows_iff {width height : UInt32}
    (fits : 4 * width.toNat * height.toNat < lengthLimit) :
    (∀ bytes : List UInt8,
      ((∃ p, flipRows width height bytes = .ok p) ↔
        bytes.length = 4 * width.toNat * height.toNat) ∧
      (bytes.length < 4 * width.toNat * height.toNat →
        flipRows width height bytes = .error .missingRows) ∧
      (4 * width.toNat * height.toNat < bytes.length →
        flipRows width height bytes =
          .error (.length bytes.length (4 * width.toNat * height.toNat) width height)) ∧
      (∀ turn, Turns width height turn →
        flipRows width height bytes =
          if bytes.length < 4 * width.toNat * height.toNat then .error .missingRows
          else Pixels.ofBytes width height (turn bytes)) ∧
      ∀ p, flipRows width height bytes = .ok p →
        p.size = (width, height) ∧ IsTurned (4 * width.toNat) height.toNat bytes p.bytes ∧
        ∃ q, flipRows width height p.bytes = .ok q ∧ q.bytes = bytes) ∧
    ∀ (rowBytes padded count : Nat) (mapped : List UInt8), 0 < count →
      ((∃ rows, tightRows? rowBytes padded count mapped = some rows) ↔
        (count - 1) * padded + rowBytes ≤ mapped.length) ∧
      ∀ rows, tightRows? rowBytes padded count mapped = some rows →
        rows.length = count * rowBytes ∧
        ∀ i < count, ∀ j < rowBytes, rows[i * rowBytes + j]? = mapped[i * padded + j]? := by
  refine ⟨fun bytes => ⟨exists_flipRows_iff fits, flipRows_of_short, fun surplus => ?_,
    fun turn turns => flipRows_eq_of_turns fits turns, fun p flipped => ?_⟩,
    fun rowBytes padded count mapped filled => ⟨exists_tightRows?_iff filled, fun rows tight => ?_⟩⟩
  · have same := (isTurned_reverseRows surplus.le).1
    rw [flipRows_of_enough surplus.le, Pixels.ofBytes_of_length_ne fits (by omega), same]
  · obtain ⟨-, size, -, turned⟩ := flipRows_eq_ok_iff.1 flipped
    exact ⟨size, turned, flipRows_bytes flipped⟩
  · exact ⟨length_tightRows tight, fun i row j column => getElem?_tightRows tight row column⟩

/-- Three rows of one pixel, whose middle one stays, and two rows of four bytes in slots of eight,
the last of which is not padded. -/
theorem flipRows_tightRows_iff_three :
    let bytes : List UInt8 := [1, 2, 3, 4, 5, 6, 7, 8, 9, 10, 11, 12]
    let mapped : List UInt8 := [1, 2, 3, 4, 0, 0, 0, 0, 5, 6, 7, 8]
    4 * (1 : UInt32).toNat * (3 : UInt32).toNat < lengthLimit ∧
      (∃ p, flipRows 1 3 bytes = .ok p ∧ p.bytes = [9, 10, 11, 12, 5, 6, 7, 8, 1, 2, 3, 4] ∧
        ∃ q, flipRows 1 3 p.bytes = .ok q ∧ q.bytes = bytes) ∧
      flipRows 1 3 bytes = Pixels.ofBytes 1 3 (exchangeRows 4 3 1 bytes) ∧
      flipRows 1 3 (bytes ++ [13]) = .error (.length 13 12 1 3) ∧
      ∃ rows, tightRows? 4 8 2 mapped = some rows ∧ rows.length = 8 ∧ rows[7]? = some 8 := by
  intro bytes mapped
  have fits : 4 * (1 : UInt32).toNat * (3 : UInt32).toNat < lengthLimit := by decide
  obtain ⟨flips, tights⟩ := flipRows_tightRows_iff fits
  obtain ⟨made, -, -, any, image⟩ := flips bytes
  refine ⟨fits, ?_, ?_, (flips (bytes ++ [13])).2.2.1 (by decide), ?_⟩
  · obtain ⟨p, flipped⟩ := made.2 (by decide)
    obtain ⟨-, turned, back⟩ := image p flipped
    have expected : IsTurned 4 3 bytes [9, 10, 11, 12, 5, 6, 7, 8, 1, 2, 3, 4] := by decide
    exact ⟨p, flipped, turned.unique (by decide) expected, back⟩
  · exact (any _ (turns_exchangeRows 1 3)).trans (if_neg (by decide))
  · obtain ⟨found, read⟩ := tights 4 8 2 mapped (by decide)
    obtain ⟨rows, tight⟩ := found.2 (by decide)
    obtain ⟨length, byte⟩ := read rows tight
    exact ⟨rows, tight, length, byte 1 (by decide) 3 (by decide)⟩

end ShaderFilm.Render
