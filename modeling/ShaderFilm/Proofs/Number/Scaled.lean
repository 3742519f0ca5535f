import Mathlib
import ShaderFilm.Time.Span

/-!
# Floating-point numbers that stay small

A double that is positive zero, or a positive `m * 2 ^ e` with `m` below `2 ^ 53`, keeps this form
under the operations that turn a span into seconds; only the bound on `e` grows.  Rounding moves a
number to its target exponent twice, since rounding the mantissa up may carry; either time the
mantissa ends below `2 ^ 53` (`div_two_pow_lt`).  Packing loses nothing as long as `e` stays below
the exponent of infinity.
-/

namespace ShaderFilm.Number

open Float.Model (UnpackedFloat Format totalExponent)
open Float.Model.UnpackedFloat

/-- Positive zero, or a positive number with a mantissa below `2 ^ 53` and an exponent of at most
`k`. -/
def Scaled (k : Int) : UnpackedFloat → Prop
  | .zero .positive => True
  | .finite .positive m e _ => m < 2 ^ 53 ∧ e ≤ k
  | _ => False

theorem Scaled.mono {k l : Int} {x : UnpackedFloat} (scaled : Scaled k x) (wider : k ≤ l) :
    Scaled l x := by
  unfold Scaled at *
  split at scaled
  · trivial
  · exact ⟨scaled.1, Int.le_trans scaled.2 wider⟩
  · exact scaled.elim

/-! ### Rounding -/

theorem mantissa_shiftRight (m : ExtendedMantissa) (n : Nat) :
    (m >>> n).mantissa = m.mantissa / 2 ^ n := by
  induction n with
  | zero => exact (Nat.div_one _).symm
  | succ n ih =>
    show ((m >>> n).shiftRightOne).mantissa = _
    rw [ExtendedMantissa.shiftRightOne, ih, Nat.div_div_eq_div_mul, Nat.pow_succ]

theorem mantissa_ofMantissaAndAccuracy (m : Nat) (a : Accuracy) :
    (ExtendedMantissa.ofMantissaAndAccuracy m a).mantissa = m := by
  unfold ExtendedMantissa.ofMantissaAndAccuracy
  split <;> rfl

theorem roundedMantissa_le (m : ExtendedMantissa) : m.roundedMantissa ≤ m.mantissa + 1 := by
  unfold ExtendedMantissa.roundedMantissa Accuracy.roundToNearestEven
  split <;> omega

theorem log2_le_of_lt {m n : Nat} (small : m < 2 ^ n) : m.log2 ≤ n := by
  by_cases zero : m = 0
  · simp [zero]
  · exact Nat.le_of_lt ((Nat.log2_lt zero).2 small)

section Shift

variable (m : Nat) (e : Int) (a : Accuracy)

theorem targetExponent_eq :
    Format.binary64.targetExponent (totalExponent m e) = max ((m.log2 : Int) + e - 52) (-1074) := by
  simp only [Format.targetExponent, totalExponent, Format.mantissaBits, Format.minExponent]
  omega

/-- A number that is moved to its target exponent has a mantissa of at most 53 digits. -/
theorem mantissa_shiftToTargetExponent_lt :
    (shiftToTargetExponent Format.binary64 m e a).1.mantissa < 2 ^ 53 := by
  unfold shiftToTargetExponent shiftToExponent
  dsimp only
  rw [targetExponent_eq, mantissa_shiftRight, mantissa_ofMantissaAndAccuracy]
  generalize shift : (max ((m.log2 : Int) + e - 52) (-1074) - e).toNat = n
  apply (Nat.div_lt_iff_lt_mul (Nat.two_pow_pos n)).2
  calc m < 2 ^ (m.log2 + 1) := Nat.lt_log2_self
    _ ≤ 2 ^ (53 + n) := Nat.pow_le_pow_right (by decide) (by omega)
    _ = 2 ^ 53 * 2 ^ n := Nat.pow_add ..

theorem exponent_shiftToTargetExponent :
    (shiftToTargetExponent Format.binary64 m e a).2 =
      max e (max ((m.log2 : Int) + e - 52) (-1074)) := by
  unfold shiftToTargetExponent shiftToExponent
  dsimp only
  rw [targetExponent_eq]
  omega

end Shift

section Round

variable {k e : Int} {m n : Nat}

theorem roundWithAccuracy_scaled (a : Accuracy) (small : m < 2 ^ n) (low : e ≤ k)
    (fits : n + e ≤ k + 52) (least : -1074 ≤ k) :
    Scaled (k + 1) (roundWithAccuracy Format.binary64 .positive m e a) := by
  unfold roundWithAccuracy
  have first := exponent_shiftToTargetExponent m e a
  have short := mantissa_shiftToTargetExponent_lt m e a
  generalize shiftToTargetExponent Format.binary64 m e a = shifted at first short ⊢
  obtain ⟨em, e₁⟩ := shifted
  dsimp only at first short ⊢
  -- rounding up may carry into one more digit
  have rounded : em.roundedMantissa.log2 ≤ 53 := by
    have up := roundedMantissa_le em
    by_cases carried : em.roundedMantissa = 2 ^ 53
    · exact Nat.le_of_eq (by rw [carried, Nat.log2_two_pow])
    · exact log2_le_of_lt (by omega)
  have second := exponent_shiftToTargetExponent em.roundedMantissa e₁ .exact
  have short := mantissa_shiftToTargetExponent_lt em.roundedMantissa e₁ .exact
  have digits := log2_le_of_lt small
  split
  · trivial
  · exact ⟨short, by omega⟩

theorem round_scaled (small : m < 2 ^ n) (low : e ≤ k) (fits : n + e ≤ k + 52)
    (least : -1074 ≤ k) : Scaled (k + 1) (UnpackedFloat.round Format.binary64 .positive m e) := by
  unfold UnpackedFloat.round decreaseExponent
  dsimp only
  rw [targetExponent_eq]
  generalize shift : (e - max ((m.log2 : Int) + e - 52) (-1074)).toNat = d
  have wider : m <<< d < 2 ^ (n + d) := by
    rw [Nat.shiftLeft_eq, Nat.pow_add]
    exact Nat.mul_lt_mul_of_pos_right small (Nat.two_pow_pos d)
  exact roundWithAccuracy_scaled .exact wider (by omega) (by omega) least

theorem normalize_scaled (small : m < 2 ^ n) (low : e ≤ k) (fits : n + e ≤ k + 52)
    (least : -1074 ≤ k) :
    Scaled (k + 1) (UnpackedFloat.normalize Format.binary64 m e .positive) := by
  unfold UnpackedFloat.normalize
  split
  · next negative =>
    have below : (m : Int) < 0 := Int.compare_eq_lt.1 negative
    omega
  · trivial
  · exact round_scaled small low fits least

end Round

/-! ### Packing -/

/-- The number that a biased exponent and the bits of a fraction stand for. -/
theorem unpack_packComponents_scaled {k : Int} (b : BitVec 11) (f : BitVec 52)
    (finite : b.toNat ≤ 2046) (low : (b.toNat : Int) ≤ k + 1075) (least : -1074 ≤ k) :
    Scaled k (unpack Format.binary64 (packComponents Format.binary64 .positive b f)) := by
  have nonnegative : Sign.ofBitVec (unpackSign (packComponents Format.binary64 .positive b f)) =
      .positive := by
    rw [unpackSign_packComponents]
    rfl
  have bounded : b ≠ -1#11 := by
    rintro rfl
    exact absurd finite (by decide)
  unfold unpack
  simp only [unpackMantissa_packComponents, unpackExponent_packComponents, nonnegative]
  rw [if_neg bounded]
  split
  · next zero =>
    split
    · trivial
    · have bits : f.toNat < 2 ^ 52 := f.isLt
      refine ⟨by omega, ?_⟩
      simp [zero, Format.exponentBias]
      omega
  · have bits : (1#1 ++ f).toNat < 2 ^ 53 := (1#1 ++ f).isLt
    refine ⟨bits, ?_⟩
    simp [Format.exponentBias]
    omega

theorem unpack_pack_scaled {k : Int} {x : UnpackedFloat} (scaled : Scaled k x) (least : -1074 ≤ k)
    (most : k ≤ 970) :
    Scaled k (unpack Format.binary64 (pack Format.binary64 x)) := by
  unfold Scaled at scaled
  split at scaled
  · exact unpack_packComponents_scaled 0 0 (by decide) (by simp; omega) least
  · next m e _ =>
    obtain ⟨-, low⟩ := scaled
    have field : (e + Format.binary64.exponentBias +
        Format.binary64.mantissaBitsWithoutImplicit).toNat = (e + 1075).toNat := by
      simp [Format.exponentBias]
      omega
    unfold pack
    dsimp only
    rw [field, if_neg (by simp; omega)]
    split
    · have whole : (BitVec.ofNat 11 (e + 1075).toNat).toNat = (e + 1075).toNat := by
        rw [BitVec.toNat_ofNat, Nat.mod_eq_of_lt (by omega)]
      exact unpack_packComponents_scaled _ _ (by rw [whole]; omega) (by rw [whole]; omega) least
    · exact unpack_packComponents_scaled _ _ (by decide) (by simp; omega) least
  · exact scaled.elim

/-! ### Operations -/

section Operations

variable {k : Int} {x y : UnpackedFloat}

theorem ofUInt64_scaled (n : UInt64) : Scaled 13 (ofUInt64 Format.binary64 n) := by
  have small : n.toNat < 2 ^ 64 := n.toNat_lt
  have scaled : Scaled (12 + 1) (normalize Format.binary64 n.toNat 0 .positive) :=
    normalize_scaled small (by omega) (by omega) (by omega)
  exact scaled

/-- A quotient by a positive number is as much larger as the exponent of that number is below
zero. -/
theorem div_scaled (scaled : Scaled k x) {m : Nat} {e : Int} (positive : 0 < m)
    (least : -1075 ≤ k - e) :
    Scaled (k - e + 2) (div Format.binary64 x (.finite .positive m e positive)) := by
  unfold Scaled at scaled
  split at scaled
  · trivial
  · next m₁ e₁ _ =>
    obtain ⟨small, low⟩ := scaled
    unfold div divCore
    dsimp only
    generalize Format.targetExponent Format.binary64 _ = t
    generalize shift : (e₁ - e - min (e₁ - e) t).toNat = d
    have wider : (m₁ <<< d) / m < 2 ^ (53 + d) := by
      have up : m₁ <<< d < 2 ^ (53 + d) := by
        rw [Nat.shiftLeft_eq, Nat.pow_add]
        exact Nat.mul_lt_mul_of_pos_right small (Nat.two_pow_pos d)
      exact Nat.lt_of_le_of_lt (Nat.div_le_self _ _) up
    have scaled : Scaled (k - e + 1 + 1) _ :=
      roundWithAccuracy_scaled (accuracyOfFraction ((m₁ <<< d) % m) m) wider
        (show min (e₁ - e) t ≤ k - e + 1 by omega) (by omega) (by omega)
    have same : k - e + 1 + 1 = k - e + 2 := by omega
    rw [same] at scaled
    exact scaled
  · exact scaled.elim

/-- A sum of two numbers may carry. -/
theorem add_scaled (first : Scaled k x) (second : Scaled k y) (least : -1076 ≤ k) :
    Scaled (k + 3) (add Format.binary64 x y) := by
  unfold Scaled at first second
  split at first
  · split at second
    · trivial
    · exact ⟨second.1, by omega⟩
    · exact second.elim
  · next m₁ e₁ _ =>
    split at second
    · exact ⟨first.1, by omega⟩
    · next m₂ e₂ _ =>
      obtain ⟨small₁, low₁⟩ := first
      obtain ⟨small₂, low₂⟩ := second
      unfold add decreaseExponent
      dsimp only [Sign.apply]
      generalize top : max e₁ e₂ = t
      generalize bottom : min e₁ e₂ = b
      have wider (m : Nat) (e : Int) (small : m < 2 ^ 53) (below : e ≤ t) :
          m <<< (e - b).toNat < 2 ^ (53 + (t - b).toNat) := by
        rw [Nat.shiftLeft_eq, Nat.pow_add]
        exact Nat.mul_lt_mul_of_lt_of_le small
          (Nat.pow_le_pow_right (by decide) (by omega)) (Nat.two_pow_pos _)
      have sum : m₁ <<< (e₁ - b).toNat + m₂ <<< (e₂ - b).toNat < 2 ^ (54 + (t - b).toNat) := by
        have left := wider m₁ e₁ small₁ (by omega)
        have right := wider m₂ e₂ small₂ (by omega)
        have twice : 2 ^ (54 + (t - b).toNat) = 2 * 2 ^ (53 + (t - b).toNat) := by
          rw [← Nat.pow_succ']
          congr 1
          omega
        omega
      have scaled := normalize_scaled (k := k + 2) sum (show b ≤ k + 2 by omega) (by omega)
        (by omega)
      have same : k + 2 + 1 = k + 3 := by omega
      rw [same] at scaled
      exact scaled
    · exact second.elim
  · exact first.elim

end Operations

/-! ### Doubles -/

section Doubles

variable {k : Int} {x y : Float}

theorem isFinite_of_scaled (scaled : Scaled k x.toModel.unpack) : x.isFinite = true := by
  show x.toModel.unpack.isFinite = true
  generalize x.toModel.unpack = u at scaled
  unfold Scaled at scaled
  split at scaled
  · rfl
  · rfl
  · exact scaled.elim

theorem not_neg_of_scaled (scaled : Scaled k x.toModel.unpack) : ¬ x < 0.0 := by
  have zero : (0.0 : Float).toModel.unpack = .zero .positive := rfl
  show ¬ (decide (x.toModel.unpack.lt (0.0 : Float).toModel.unpack = true) = true)
  rw [zero, decide_eq_true_eq]
  generalize x.toModel.unpack = u at scaled ⊢
  unfold Scaled at scaled
  split at scaled
  · exact Bool.false_ne_true
  · exact Bool.false_ne_true
  · exact scaled.elim

theorem toFloat_scaled (n : UInt64) : Scaled 13 n.toFloat.toModel.unpack :=
  unpack_pack_scaled (ofUInt64_scaled n) (by omega) (by omega)

theorem billion_eq : ∃ positive, (1000000000.0 : Float).toModel.unpack =
    .finite .positive 8388608000000000 (-23) positive := ⟨by decide, rfl⟩

theorem div_billion_scaled (scaled : Scaled k x.toModel.unpack) (least : -1074 ≤ k)
    (most : k ≤ 945) : Scaled (k + 25) (x / 1000000000.0).toModel.unpack := by
  obtain ⟨positive, billion⟩ := billion_eq
  have bound : -1075 ≤ k - (-23 : Int) := by omega
  have quotient := div_scaled scaled positive bound
  have same : k - -23 + 2 = k + 25 := by omega
  rw [same] at quotient
  show Scaled (k + 25) (Float.Model.unpack (Float.Model.pack _))
  rw [billion]
  exact unpack_pack_scaled quotient (by omega) (by omega)

theorem add_float_scaled (first : Scaled k x.toModel.unpack) (second : Scaled k y.toModel.unpack)
    (least : -1076 ≤ k) (most : k ≤ 967) : Scaled (k + 3) (x + y).toModel.unpack :=
  unpack_pack_scaled (add_scaled first second least) (by omega) (by omega)

end Doubles

end ShaderFilm.Number

namespace ShaderFilm.Time.Span

open ShaderFilm.Number

theorem toFloat_scaled (d : Span) : Scaled 41 d.toFloat.toModel.unpack := by
  have seconds : Scaled 38 (UInt64.ofNat d.seconds).toFloat.toModel.unpack :=
    (Number.toFloat_scaled _).mono (by omega)
  have nanos := div_billion_scaled (Number.toFloat_scaled (UInt64.ofNat d.nanos)) (by omega)
    (by omega)
  exact add_float_scaled seconds nanos (by omega) (by omega)

/-- Every span is a finite number of seconds and not negative. -/
theorem toFloat_nonneg (d : Span) : d.toFloat.isFinite = true ∧ ¬ d.toFloat < 0.0 :=
  ⟨isFinite_of_scaled d.toFloat_scaled, not_neg_of_scaled d.toFloat_scaled⟩

end ShaderFilm.Time.Span
