import Mathlib
import ShaderFilm.Proofs.Number.Nearest

/-!
# Values of doubles

The value of a double as a rational number, and the operations that turn a span into seconds: each
rounds the exact result (`Rounds`), and none of the numbers is so large that packing would lose it.
-/

namespace ShaderFilm.Number

open Float.Model (UnpackedFloat)
open Float.Model.UnpackedFloat

/-- The value of a finite double; zero for the others. -/
def value (x : Float) : ℚ := valueOf x.toModel.unpack

/-! ### Packing -/

section Packing

open Float.Model.Format (binary64)

theorem finite_congr {s : Sign} {m n : ℕ} {e f : ℤ} (mantissa : m = n) (exponent : e = f)
    (positive : 0 < n) : UnpackedFloat.finite s m e (mantissa ▸ positive) = .finite s n f positive := by
  subst mantissa exponent
  rfl

theorem toNat_one_append {w : ℕ} (fraction : BitVec w) :
    (1#1 ++ fraction).toNat = 2 ^ w + fraction.toNat := by
  rw [BitVec.toNat_append, ← Nat.shiftLeft_add_eq_or_of_lt fraction.isLt]
  simp [Nat.shiftLeft_eq]

/-- The leading digit is left out, and put back. -/
theorem unpack_normal {m : ℕ} (full : 2 ^ 52 ≤ m) (small : m < 2 ^ 53) {b : ℕ} (some : 0 < b)
    (finite : b < 2047) :
    unpack binary64 (packComponents binary64 .positive (BitVec.ofNat 11 b) (BitVec.ofNat 52 m)) =
      .finite .positive m (b - 1075) (by omega) := by
  have whole : (BitVec.ofNat 11 b).toNat = b := by
    rw [BitVec.toNat_ofNat, Nat.mod_eq_of_lt (by omega)]
  have bounded : BitVec.ofNat 11 b ≠ -1#11 := by
    intro same
    rw [same] at whole
    have top : (-1#11).toNat = 2047 := by decide
    omega
  have nonzero : BitVec.ofNat 11 b ≠ 0#11 := by
    intro same
    rw [same] at whole
    have bottom : (0#11).toNat = 0 := rfl
    omega
  unfold unpack
  simp only [unpackMantissa_packComponents, unpackExponent_packComponents,
    unpackSign_packComponents, Sign.ofBitVec_toBitVec]
  rw [if_neg bounded, if_neg nonzero]
  refine finite_congr ?_ ?_ _
  · have fraction : (BitVec.ofNat 52 m).toNat = m - 2 ^ 52 := by
      rw [BitVec.toNat_ofNat]
      omega
    rw [toNat_one_append, fraction]
    omega
  · rw [whole]
    simp [Float.Model.Format.exponentBias]

theorem unpack_subnormal {m : ℕ} (positive : 0 < m) (small : m < 2 ^ 52) :
    unpack binary64 (packComponents binary64 .positive 0 (BitVec.ofNat 52 m)) =
      .finite .positive m (-1074) positive := by
  have whole : (BitVec.ofNat 52 m).toNat = m := by
    rw [BitVec.toNat_ofNat, Nat.mod_eq_of_lt small]
  have nonzero : BitVec.ofNat 52 m ≠ 0#52 := by
    intro same
    rw [same] at whole
    exact positive.ne whole
  unfold unpack
  simp only [unpackMantissa_packComponents, unpackExponent_packComponents,
    unpackSign_packComponents, Sign.ofBitVec_toBitVec]
  rw [if_neg (by decide), if_pos (by decide), dif_neg nonzero]
  refine finite_congr whole ?_ positive
  simp [Float.Model.Format.exponentBias]

theorem unpack_pack_of_canonical {u : UnpackedFloat} (canonical : Canonical u)
    (scaled : Scaled 970 u) : unpack binary64 (pack binary64 u) = u := by
  unfold Canonical at canonical
  split at canonical
  · exact unpack_packedZero
  · next m e positive =>
    obtain ⟨small, least, full⟩ := canonical
    have low : e ≤ 970 := scaled.2
    have field : (e + binary64.exponentBias + binary64.mantissaBitsWithoutImplicit).toNat =
        (e + 1075).toNat := by
      simp [Float.Model.Format.exponentBias]
      omega
    unfold pack
    dsimp only
    rw [field, if_neg (by simp; omega)]
    by_cases leading : 2 ^ 52 ≤ m
    · have digits : m.log2 = 52 := (Nat.log2_eq_iff positive.ne').2 ⟨leading, small⟩
      rw [digits, if_pos (by decide), unpack_normal leading small (by omega) (by omega)]
      exact finite_congr rfl (by omega) positive
    · have digits : m.log2 < 52 := (Nat.log2_lt positive.ne').2 (Nat.lt_of_not_le leading)
      obtain rfl := full.resolve_left leading
      rw [if_neg (by simp [Float.Model.Format.mantissaBits]; omega)]
      exact unpack_subnormal positive (Nat.lt_of_not_le leading)
  · exact canonical.elim

end Packing

/-! ### Operations -/

theorem rounds_pack {w : ℚ} {u : UnpackedFloat} (rounds : Rounds w u) (scaled : Scaled 970 u) :
    Rounds w (Float.Model.pack u).unpack := by
  show Rounds w (unpack Float.Model.Format.binary64 (pack Float.Model.Format.binary64 u))
  rw [unpack_pack_of_canonical rounds.canonical scaled]
  exact rounds

section Doubles

variable {x y : Float} {k : ℤ}

theorem toFloat_rounds (n : UInt64) : Rounds n.toNat n.toFloat.toModel.unpack :=
  rounds_pack (ofUInt64_rounds n) ((ofUInt64_scaled n).mono (by norm_num))

theorem div_billion_rounds (canonical : Canonical x.toModel.unpack)
    (scaled : Scaled k x.toModel.unpack) (least : -1098 ≤ k) (most : k ≤ 945) :
    Rounds (value x / 10 ^ 9) (x / 1000000000.0).toModel.unpack := by
  obtain ⟨positive, billion⟩ := billion_eq
  have divisor : ((8388608000000000 : ℕ) : ℚ) * 2 ^ (-23 : ℤ) = 10 ^ 9 := by norm_num
  have rounds := div_rounds (e := -23) canonical positive
  rw [divisor] at rounds
  show Rounds _ (Float.Model.unpack (Float.Model.pack _))
  rw [billion]
  exact rounds_pack rounds ((div_scaled scaled positive (by omega)).mono (by omega))

theorem add_rounds_float (first : Canonical x.toModel.unpack) (second : Canonical y.toModel.unpack)
    (low₁ : Scaled k x.toModel.unpack) (low₂ : Scaled k y.toModel.unpack) (least : -1076 ≤ k)
    (most : k ≤ 967) : Rounds (value x + value y) (x + y).toModel.unpack :=
  rounds_pack (add_rounds first second) ((add_scaled low₁ low₂ least).mono (by omega))

end Doubles

/-! ### Bits -/

section Bits

open Float.Model.Format (binary64)

theorem toNat_unpackExponent (b : BitVec binary64.numBits) :
    (unpackExponent b).toNat = b.toNat / 2 ^ 52 % 2 ^ 11 := by
  rw [unpackExponent_def, BitVec.extractLsb'_toNat, Nat.shiftRight_eq_div_pow]

theorem toNat_unpackMantissa (b : BitVec binary64.numBits) :
    (unpackMantissa b).toNat = b.toNat % 2 ^ 52 := by
  rw [unpackMantissa_def, BitVec.extractLsb'_toNat, Nat.shiftRight_zero]

/-- The numbers that `split` reads off the bits of a finite double, and its sign. -/
theorem unpack_eq_of_split (b : BitVec binary64.numBits) (finite : (unpack binary64 b).isFinite = true) {m : ℕ}
    {q : ℤ} (split : Format.double.split (b.toNat % 0x8000000000000000) = (m, q)) :
    m < 2 ^ 53 ∧ -1074 ≤ q ∧
      ∃ s, unpack binary64 b = .zero s ∧ m = 0 ∨ ∃ p, unpack binary64 b = .finite s m q p := by
  have exponent := toNat_unpackExponent b
  have fraction := toNat_unpackMantissa b
  have bits := b.isLt
  unfold Format.split Format.double Format.lowest at split
  simp only [Nat.pow_eq] at split
  unfold unpack at finite ⊢
  dsimp only at finite ⊢
  by_cases top : unpackExponent b = -1#11
  · rw [if_pos top] at finite
    split at finite <;> cases finite
  rw [if_neg top]
  by_cases bottom : unpackExponent b = 0#11
  · rw [bottom, BitVec.toNat_ofNat, Nat.zero_mod] at exponent
    rw [if_pos (by omega)] at split
    obtain ⟨rfl, rfl⟩ := Prod.mk.inj split
    refine ⟨by omega, by norm_num, Sign.ofBitVec (unpackSign b), ?_⟩
    rw [if_pos bottom]
    by_cases none : unpackMantissa b = 0#52
    · rw [none, BitVec.toNat_ofNat, Nat.zero_mod] at fraction
      exact .inl ⟨dif_pos none, by omega⟩
    · rw [dif_neg none]
      have some : (unpackMantissa b).toNat ≠ 0 := fun zero => none (BitVec.eq_of_toNat_eq zero)
      refine .inr ⟨by omega, finite_congr ?_ ?_ _⟩
      · omega
      · rw [bottom]
        simp [Float.Model.Format.exponentBias]
  · have some : (unpackExponent b).toNat ≠ 0 := fun zero => bottom (BitVec.eq_of_toNat_eq zero)
    rw [if_neg (by omega)] at split
    obtain ⟨rfl, rfl⟩ := Prod.mk.inj split
    refine ⟨by omega, by omega, Sign.ofBitVec (unpackSign b), .inr ⟨by omega, ?_⟩⟩
    rw [if_neg bottom]
    refine finite_congr ?_ ?_ _
    · rw [toNat_one_append, fraction]
      show 2 ^ 52 + b.toNat % 2 ^ 52 = _
      omega
    · simp [Float.Model.Format.exponentBias]
      omega

theorem exists_split {x : Float} (finite : x.isFinite = true) (nonneg : ¬ x < 0.0) :
    ∃ m q, Format.double.split (x.toBits.toNat % 0x8000000000000000) = (m, q) ∧ m < 2 ^ 53 ∧
      -1074 ≤ q ∧ value x = m * 2 ^ q := by
  obtain ⟨m, q, split⟩ : ∃ m q, Format.double.split (x.toBits.toNat % 0x8000000000000000) = (m, q) :=
    ⟨_, _, rfl⟩
  refine ⟨m, q, split, ?_⟩
  have above : ¬ x.toModel.unpack.lt (.zero .positive) = true := by
    have zero : (0.0 : Float).toModel.unpack = .zero .positive := rfl
    have below : ¬ decide (x.toModel.unpack.lt (0.0 : Float).toModel.unpack = true) = true := nonneg
    rwa [zero, decide_eq_true_eq] at below
  obtain ⟨small, least, s, ⟨unpacked, none⟩ | ⟨p, unpacked⟩⟩ :=
    unpack_eq_of_split x.toBits.toBitVec finite split
  · refine ⟨small, least, ?_⟩
    have zero : value x = 0 := congrArg valueOf unpacked
    rw [zero, none, Nat.cast_zero, zero_mul]
  · refine ⟨small, least, ?_⟩
    cases s with
    | positive => exact congrArg valueOf unpacked
    | negative =>
      refine absurd ?_ above
      show UnpackedFloat.lt (unpack binary64 x.toBits.toBitVec) _ = true
      rw [unpacked]
      rfl

theorem fits_value {x : Float} (finite : x.isFinite = true) (nonneg : ¬ x < 0.0) :
    Fits (value x) := by
  obtain ⟨m, q, -, small, least, same⟩ := exists_split finite nonneg
  exact ⟨m, q, small, least, same⟩

end Bits

end ShaderFilm.Number
