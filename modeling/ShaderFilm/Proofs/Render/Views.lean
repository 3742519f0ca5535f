import ShaderFilm.Proofs.Render.Rows

/-!
# Views of an image

An image can be looked at as its bytes, as its rows, and as its pixels by column and row.  The rows
are what its bytes are cut into (`Pixels.row?_eq_getElem?`), and so are the pixels
(`Pixels.pixel?_eq_some_iff`), so all three show the same (`Pixels.views`).  An image is of one
colour if all its pixels are (`Pixels.isUniform_iff`), and there is one such image of each size
(`Pixels.eq_filled`).
-/

namespace ShaderFilm.Render

/-! ### Cutting bytes -/

section Cut

variable {stride count i : Nat} {bytes : List UInt8}

@[simp] theorem length_cutRows (stride count : Nat) (bytes : List UInt8) :
    (cutRows stride count bytes).length = count := by
  induction count generalizing bytes with
  | zero => rfl
  | succ count ih => rw [cutRows, List.length_cons, ih]

theorem getElem?_cutRows (lt : i < count) :
    (cutRows stride count bytes)[i]? = some ((bytes.drop (i * stride)).take stride) := by
  induction count generalizing bytes i with
  | zero => cases lt
  | succ count ih =>
    cases i with
    | zero => simp [cutRows]
    | succ i =>
      rw [cutRows, List.getElem?_cons_succ, ih (Nat.lt_of_succ_lt_succ lt), List.drop_drop,
        Nat.succ_mul, Nat.add_comm stride]

theorem flatten_cutRows (enough : count * stride = bytes.length) :
    (cutRows stride count bytes).flatten = bytes := by
  induction count generalizing bytes with
  | zero =>
    rw [Nat.zero_mul] at enough
    rw [List.eq_nil_of_length_eq_zero enough.symm]
    rfl
  | succ count ih =>
    rw [Nat.succ_mul] at enough
    have rest : count * stride = (bytes.drop stride).length := by
      rw [List.length_drop]
      omega
    rw [cutRows, List.flatten_cons, ih rest, List.take_append_drop]

theorem length_of_mem_cutRows (enough : count * stride ≤ bytes.length) :
    ∀ row ∈ cutRows stride count bytes, row.length = stride := by
  intro row mem
  obtain ⟨i, lt, rfl⟩ := List.getElem_of_mem mem
  rw [length_cutRows] at lt
  have here : (cutRows stride count bytes)[i]? = some ((bytes.drop (i * stride)).take stride) :=
    getElem?_cutRows lt
  have ends : (i + 1) * stride ≤ bytes.length := (Nat.mul_le_mul_right stride lt).trans enough
  rw [Nat.succ_mul] at ends
  rw [List.getElem?_eq_getElem (by rwa [length_cutRows])] at here
  rw [Option.some.inj here, List.length_take, List.length_drop]
  omega

end Cut

theorem Color.bytes_injective : Function.Injective Color.bytes := by
  rintro ⟨_, _, _, _⟩ ⟨_, _, _, _⟩ same
  simpa [Color.bytes] using same

namespace Pixels

/-- All groups of four bytes are the colour just if the bytes are cut into that colour only. -/
theorem allEqual_iff {c : Color} {n : Nat} {bytes : List UInt8} (length : bytes.length = n * 4) :
    allEqual c bytes = true ↔ cutRows 4 n bytes = List.replicate n c.bytes := by
  induction n generalizing bytes with
  | zero =>
    rw [Nat.zero_mul] at length
    rw [List.eq_nil_of_length_eq_zero length]
    simp [allEqual, cutRows]
  | succ n ih =>
    obtain ⟨red, green, blue, alpha, rest, rfl⟩ :
        ∃ red green blue alpha rest, bytes = red :: green :: blue :: alpha :: rest := by
      rcases bytes with _ | ⟨red, _ | ⟨green, _ | ⟨blue, _ | ⟨alpha, rest⟩⟩⟩⟩
      case cons.cons.cons.cons => exact ⟨red, green, blue, alpha, rest, rfl⟩
      all_goals
        simp only [List.length_cons, List.length_nil] at length
        omega
    have rest' : rest.length = n * 4 := by
      simp only [List.length_cons] at length
      omega
    have first : [red, green, blue, alpha] = c.bytes ↔ ⟨red, green, blue, alpha⟩ = c :=
      Color.bytes_injective.eq_iff (a := ⟨red, green, blue, alpha⟩)
    rw [allEqual, Bool.and_eq_true, beq_iff_eq, ih rest', cutRows, List.replicate_succ,
      List.cons.injEq, ← first]
    rfl

variable {p : Pixels} {x y : UInt32} {c : Color}

theorem length_bytes_groups (p : Pixels) :
    p.bytes.length = p.height.toNat * p.width.toNat * 4 := by
  rw [p.length_bytes]
  ring

/-! ### Rows -/

theorem row?_eq_getElem? (inside : y.toNat < p.height.toNat) :
    p.row? y = (cutRows (rowLength p.width) p.height.toNat p.bytes)[y.toNat]? := by
  rw [row?_eq_some inside, getElem?_cutRows inside]

/-! ### Pixels -/

/-- The pixels of all rows before and of the row itself stand before a pixel. -/
theorem position_lt {w h x y : Nat} (column : x < w) (row : y < h) : y * w + x < h * w := by
  calc
    y * w + x < y * w + w := Nat.add_lt_add_left column _
    _ = (y + 1) * w := (Nat.succ_mul y w).symm
    _ ≤ h * w := Nat.mul_le_mul_right w row

/-- Every position is that of a pixel. -/
theorem exists_position {width height : UInt32} {i : Nat}
    (inside : i < height.toNat * width.toNat) :
    ∃ x y : UInt32, x < width ∧ y < height ∧ y.toNat * width.toNat + x.toNat = i := by
  have wide : 0 < width.toNat := Nat.pos_of_ne_zero fun none => by simp [none] at inside
  have column : i % width.toNat < width.toNat := Nat.mod_lt i wide
  have row : i / width.toNat < height.toNat := Nat.div_lt_of_lt_mul (by rwa [Nat.mul_comm])
  have x : (UInt32.ofNat (i % width.toNat)).toNat = i % width.toNat :=
    UInt32.toNat_ofNat_of_lt' (column.trans width.toNat_lt)
  have y : (UInt32.ofNat (i / width.toNat)).toNat = i / width.toNat :=
    UInt32.toNat_ofNat_of_lt' (row.trans height.toNat_lt)
  refine ⟨.ofNat (i % width.toNat), .ofNat (i / width.toNat), UInt32.lt_iff_toNat_lt.2 ?_,
    UInt32.lt_iff_toNat_lt.2 ?_, ?_⟩
  · rwa [x]
  · rwa [y]
  · rw [x, y, Nat.div_add_mod']

theorem bytes_pixel?_position (column : x.toNat < p.width.toNat)
    (inside : y.toNat < p.height.toNat) :
    (p.pixel? x y).map Color.bytes =
      some ((p.bytes.drop (4 * (y.toNat * p.width.toNat + x.toNat))).take 4) := by
  have offset : y.toNat * rowLength p.width + 4 * x.toNat =
      4 * (y.toNat * p.width.toNat + x.toNat) := by
    rw [rowLength]
    ring
  rw [bytes_pixel? column inside, offset]

/-- A pixel is the group of four bytes behind those of the pixels before it. -/
theorem pixel?_eq_some_iff (column : x.toNat < p.width.toNat)
    (inside : y.toNat < p.height.toNat) :
    p.pixel? x y = some c ↔
      (cutRows 4 (p.height.toNat * p.width.toNat) p.bytes)[y.toNat * p.width.toNat + x.toNat]? =
        some c.bytes := by
  rw [getElem?_cutRows (position_lt column inside), Nat.mul_comm _ 4,
    ← bytes_pixel?_position column inside]
  exact ((Option.map_injective Color.bytes_injective).eq_iff (b := some c)).symm

/-- An image is of one colour just if each of its pixels has that colour. -/
theorem isUniform_iff :
    p.isUniform c = true ↔
      ∀ x y : UInt32, x < p.width → y < p.height → p.pixel? x y = some c := by
  rw [isUniform, allEqual_iff p.length_bytes_groups]
  constructor
  · intro uniform x y column row
    have column := UInt32.lt_iff_toNat_lt.1 column
    have row := UInt32.lt_iff_toNat_lt.1 row
    rw [pixel?_eq_some_iff column row, uniform, List.getElem?_replicate,
      if_pos (position_lt column row)]
  · intro pixels
    refine List.ext_getElem? fun i => ?_
    by_cases inside : i < p.height.toNat * p.width.toNat
    · obtain ⟨x, y, column, row, rfl⟩ := exists_position inside
      have here := (pixel?_eq_some_iff (UInt32.lt_iff_toNat_lt.1 column)
        (UInt32.lt_iff_toNat_lt.1 row)).1 (pixels x y column row)
      rw [here, List.getElem?_replicate, if_pos inside]
    · rw [List.getElem?_eq_none, List.getElem?_eq_none] <;> simp <;> omega

/-! ### One colour -/

theorem isUniform_filled {width height : UInt32}
    (fits : 4 * width.toNat * height.toNat < lengthLimit) (c : Color) :
    (filled width height c fits).isUniform c = true := by
  have equal : ∀ group ∈ List.replicate (height.toNat * width.toNat) c.bytes, group.length = 4 :=
    fun group mem => by rw [List.eq_of_mem_replicate mem]; rfl
  have cut := cutRows_flatten equal
  rw [List.length_replicate] at cut
  rw [isUniform, allEqual_iff (length_bytes_groups _)]
  exact cut

theorem eq_of_bytes {p q : Pixels} (size : p.size = q.size) (bytes : p.bytes = q.bytes) :
    p = q := by
  obtain ⟨_, _, _, _, _⟩ := p
  obtain ⟨_, _, _, _, _⟩ := q
  simpa [Pixels.size, and_assoc] using And.intro size bytes

/-- There is one image of each size and colour. -/
theorem eq_filled (uniform : p.isUniform c = true) : p = filled p.width p.height c p.fits := by
  rw [isUniform, allEqual_iff (length_bytes_groups p)] at uniform
  refine eq_of_bytes rfl ?_
  rw [← flatten_cutRows p.length_bytes_groups.symm, uniform]
  rfl

/-- Bytes make an image just if they are as many as it has and this number is a word. -/
theorem exists_ofBytes_iff {width height : UInt32} {bytes : List UInt8} :
    (∃ p, ofBytes width height bytes = .ok p) ↔
      bytes.length = 4 * width.toNat * height.toNat ∧
        4 * width.toNat * height.toNat < lengthLimit := by
  constructor
  · rintro ⟨p, made⟩
    obtain ⟨size, rfl⟩ := ofBytes_eq_ok_iff.1 made
    obtain ⟨rfl, rfl⟩ : p.width = width ∧ p.height = height := Prod.mk.inj size
    exact ⟨p.length_bytes, p.fits⟩
  · rintro ⟨length, fits⟩
    exact ⟨⟨width, height, bytes, length, fits⟩, ofBytes_eq_ok_iff.2 ⟨rfl, rfl⟩⟩

theorem exists_filled?_iff {width height : UInt32} :
    (∃ p, filled? width height c = some p) ↔ 4 * width.toNat * height.toNat < memoryLimit := by
  rw [filled?]
  split <;> simp_all

/-- The bytes of an image, its rows, and its pixels by column and row show the same, and the image
is of one colour just if all pixels are.  Bytes make an image if there are four for each pixel, and
there is one image of each size and colour, which can be had if memory could hold it. -/
theorem views {width height : UInt32} (fits : 4 * width.toNat * height.toNat < lengthLimit) :
    (∀ bytes, ((∃ p, ofBytes width height bytes = .ok p) ↔
        bytes.length = 4 * width.toNat * height.toNat) ∧
      ∀ p, ofBytes width height bytes = .ok p → p.size = (width, height) ∧ p.bytes = bytes) ∧
    (∀ p : Pixels, p.size = (width, height) →
      (∃ rows : List (List UInt8), rows.length = height.toNat ∧
        (∀ y < height, p.row? y = rows[y.toNat]?) ∧
        (∀ row ∈ rows, row.length = 4 * width.toNat) ∧ rows.flatten = p.bytes) ∧
      (∀ x < width, ∀ y < height, (p.pixel? x y).map Color.bytes =
        some ((p.bytes.drop (4 * (y.toNat * width.toNat + x.toNat))).take 4)) ∧
      ∀ c, p.isUniform c = true ↔ ∀ x < width, ∀ y < height, p.pixel? x y = some c) ∧
    ∀ c, ((∃ p, filled? width height c = some p) ↔
        4 * width.toNat * height.toNat < memoryLimit) ∧
      ∀ p, filled? width height c = some p → p.size = (width, height) ∧ p.isUniform c = true ∧
        ∀ q : Pixels, q.size = (width, height) → q.isUniform c = true → q = p := by
  refine ⟨fun bytes => ⟨exists_ofBytes_iff.trans (and_iff_left fits),
      fun p => ofBytes_eq_ok_iff.1⟩, fun p size => ?_,
    fun c => ⟨exists_filled?_iff, fun p made => ?_⟩⟩
  · obtain ⟨rfl, rfl⟩ : p.width = width ∧ p.height = height := Prod.mk.inj size
    have whole : p.height.toNat * rowLength p.width = p.bytes.length := by
      rw [p.length_bytes, rowLength, Nat.mul_comm]
    refine ⟨⟨cutRows (rowLength p.width) p.height.toNat p.bytes, length_cutRows _ _ _, ?_,
      length_of_mem_cutRows (Nat.le_of_eq whole), flatten_cutRows whole⟩, ?_, fun c => ?_⟩
    · intro y row
      exact row?_eq_getElem? (UInt32.lt_iff_toNat_lt.1 row)
    · intro x column y row
      exact bytes_pixel?_position (UInt32.lt_iff_toNat_lt.1 column)
        (UInt32.lt_iff_toNat_lt.1 row)
    · rw [isUniform_iff]
      exact ⟨fun all x column y row => all x y column row,
        fun all x y column row => all x column y row⟩
  · rw [filled?] at made
    split at made
    · obtain rfl := Option.some.inj made
      refine ⟨rfl, isUniform_filled fits c, fun q size uniform => ?_⟩
      obtain ⟨rfl, rfl⟩ : q.width = width ∧ q.height = height := Prod.mk.inj size
      exact eq_filled uniform
    · cases made

/-- The views of an image of three columns and two rows, and of one of a single colour. -/
theorem views_small :
    let bytes := (List.range 24).map UInt8.ofNat
    4 * (3 : UInt32).toNat * (2 : UInt32).toNat < lengthLimit ∧
      (∃ p, ofBytes 3 2 bytes = .ok p ∧
        (∃ top bottom, p.row? 0 = some top ∧ p.row? 1 = some bottom ∧ top ++ bottom = bytes) ∧
        (p.pixel? 2 1).map Color.bytes = some [20, 21, 22, 23]) ∧
      ∃ p, filled? 3 2 ⟨1, 2, 3, 4⟩ = some p ∧ p.pixel? 2 1 = some ⟨1, 2, 3, 4⟩ := by
  intro bytes
  have fits : 4 * (3 : UInt32).toNat * (2 : UInt32).toNat < lengthLimit := by decide
  obtain ⟨made, shows, filled⟩ := views fits
  refine ⟨fits, ?_, ?_⟩
  · obtain ⟨p, ok⟩ := (made bytes).1.2 (by decide)
    obtain ⟨size, same⟩ := (made bytes).2 p ok
    obtain ⟨⟨rows, count, row, -, joined⟩, pixel, -⟩ := shows p size
    obtain ⟨top, bottom, rfl⟩ : ∃ top bottom, rows = [top, bottom] :=
      match rows, count with
      | [top, bottom], _ => ⟨top, bottom, rfl⟩
    refine ⟨p, ok, ⟨top, bottom, row 0 (by decide), row 1 (by decide), ?_⟩, ?_⟩
    · rw [← same, ← joined]
      simp
    · rw [pixel 2 (by decide) 1 (by decide), same]
      decide +kernel
  · obtain ⟨p, made⟩ := (filled ⟨1, 2, 3, 4⟩).1.2 (by decide)
    obtain ⟨size, uniform, -⟩ := (filled ⟨1, 2, 3, 4⟩).2 p made
    exact ⟨p, made, ((shows p size).2.2 _).1 uniform 2 (by decide) 1 (by decide)⟩

/-- Not every image of one colour can be had whose length fits a word. -/
theorem filled?_eq_none :
    4 * (0x80000000 : UInt32).toNat * (0x40000000 : UInt32).toNat < lengthLimit ∧
      ¬ ∃ p, filled? 0x80000000 0x40000000 ⟨255, 0, 0, 255⟩ = some p ∧
        p.isUniform ⟨255, 0, 0, 255⟩ = true := by
  refine ⟨by decide, ?_⟩
  rintro ⟨p, made, -⟩
  have held := exists_filled?_iff.1 ⟨p, made⟩
  revert held
  decide

end Pixels

end ShaderFilm.Render
