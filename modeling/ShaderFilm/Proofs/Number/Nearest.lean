import Mathlib
import ShaderFilm.Proofs.Number.Scaled

/-!
# Rounding to the nearest floating-point number

An operation on doubles works out its result exactly, or far enough to know on which side of which
half the rest lies (`Holds`), and then moves it to the exponent at which 53 digits are left.  What
comes out is a double to which no other is preferable (`Nearest`).  This is all that is known about
it below: a result that is a double itself is exact, and the error of any other is bounded by its
size.
-/

namespace ShaderFilm.Number

/-! ### Doubles as rational numbers -/

/-- The value of a double that is not negative, whatever its size. -/
def Fits (v : ℚ) : Prop := ∃ (m : ℕ) (q : ℤ), m < 2 ^ 53 ∧ -1074 ≤ q ∧ v = m * 2 ^ q

/-- `v` is a double, and none is nearer to `w`. -/
structure Nearest (w v : ℚ) : Prop where
  fits : Fits v
  least : ∀ u, Fits u → |v - w| ≤ |u - w|

section Rational

variable {u v w : ℚ} {k : ℤ}

theorem two_zpow_pos (k : ℤ) : (0 : ℚ) < 2 ^ k := zpow_pos (by norm_num) k

theorem two_zpow_add_nat (k : ℤ) (n : ℕ) : (2 : ℚ) ^ (k + n) = 2 ^ n * 2 ^ k := by
  rw [zpow_add₀ (by norm_num), zpow_natCast, mul_comm]

theorem fits_mul_two_zpow {m : ℕ} (small : m ≤ 2 ^ 53) (least : -1074 ≤ k) :
    Fits (m * 2 ^ k) := by
  obtain below | rfl := Nat.lt_or_eq_of_le small
  · exact ⟨m, k, below, least, rfl⟩
  · refine ⟨2 ^ 52, k + 1, by norm_num, by omega, ?_⟩
    rw [zpow_add₀ (by norm_num)]
    push_cast
    ring

theorem Fits.nonneg (fits : Fits v) : 0 ≤ v := by
  obtain ⟨m, q, -, -, rfl⟩ := fits
  have := two_zpow_pos q
  positivity

/-- Large doubles are far apart. -/
theorem Fits.multiple (fits : Fits u) (large : k = -1074 ∨ 2 ^ (k + 52) ≤ u) :
    ∃ n : ℕ, u = n * 2 ^ k := by
  obtain ⟨m, q, small, least, rfl⟩ := fits
  have finer : k ≤ q := by
    obtain rfl | large := large
    · exact least
    · have digits : (m : ℚ) * 2 ^ q < 2 ^ (q + 53) := by
        rw [show (2 : ℚ) ^ (q + 53) = 2 ^ 53 * 2 ^ q from two_zpow_add_nat q 53]
        exact mul_lt_mul_of_pos_right (by exact_mod_cast small) (two_zpow_pos q)
      have below : k + 52 < q + 53 := (zpow_lt_zpow_iff_right₀ (by norm_num)).1
        (large.trans_lt digits)
      omega
  obtain ⟨n, rfl⟩ := Int.le.dest finer
  refine ⟨m * 2 ^ n, ?_⟩
  rw [two_zpow_add_nat k n]
  push_cast
  ring

/-- From `2 ^ 52` on doubles are whole. -/
theorem Fits.le_of_lt_succ {n : ℕ} (fits : Fits v) (large : 2 ^ 52 ≤ n) (below : v < n + 1) :
    v ≤ n := by
  by_cases small : v < 2 ^ 52
  · have bound : (2 ^ 52 : ℚ) ≤ n := by exact_mod_cast large
    exact (small.trans_le bound).le
  · obtain ⟨m, rfl⟩ := fits.multiple (k := 0) (.inr (le_of_not_gt small))
    rw [zpow_zero, mul_one] at below ⊢
    have whole : m < n + 1 := by exact_mod_cast below
    exact_mod_cast Nat.lt_succ_iff.1 whole

theorem fits_natCast {n : ℕ} (small : n ≤ 2 ^ 53) : Fits n := by
  simpa using fits_mul_two_zpow (k := 0) small (by norm_num)

theorem nearest_self (fits : Fits w) : Nearest w w := ⟨fits, fun u _ => by simp⟩

theorem Nearest.eq_of_fits (near : Nearest w v) (fits : Fits w) : v = w := by
  have none := near.least w fits
  rw [sub_self, abs_zero, abs_nonpos_iff, sub_eq_zero] at none
  exact none

/-- A multiple of a power of two is nearest already if there is none between. -/
theorem nearest_of_multiple {r : ℕ} (small : r ≤ 2 ^ 53) (least : -1074 ≤ k)
    (near : |r - w / 2 ^ k| ≤ 1 / 2) (large : k = -1074 ∨ 2 ^ (k + 52) ≤ w) :
    Nearest w (r * 2 ^ k) := by
  have positive := two_zpow_pos k
  have scale (n : ℕ) : |(n : ℚ) * 2 ^ k - w| = |n - w / 2 ^ k| * 2 ^ k := by
    rw [← abs_of_pos positive, ← abs_mul, abs_of_pos positive, sub_mul,
      div_mul_cancel₀ _ positive.ne']
  have least_multiple (n : ℕ) : |(r : ℚ) * 2 ^ k - w| ≤ |(n : ℚ) * 2 ^ k - w| := by
    rw [scale, scale]
    refine mul_le_mul_of_nonneg_right ?_ positive.le
    by_cases same : n = r
    · rw [same]
    · have apart : (1 : ℚ) ≤ |(n : ℚ) - r| := by
        have whole : (1 : ℤ) ≤ |(n : ℤ) - r| := Int.one_le_abs (by omega)
        exact_mod_cast whole
      have way := abs_sub_le (n : ℚ) (w / 2 ^ k) r
      rw [abs_sub_comm (w / 2 ^ k)] at way
      linarith
  refine ⟨fits_mul_two_zpow small least, fun u fits => ?_⟩
  by_cases far : k = -1074 ∨ 2 ^ (k + 52) ≤ u
  · obtain ⟨n, rfl⟩ := fits.multiple far
    exact least_multiple n
  · -- the power of two above `u` is a multiple, and nearer
    obtain ⟨ne, below⟩ := not_or.1 far
    have above := large.resolve_left ne
    have power : ((2 ^ 52 : ℕ) : ℚ) * 2 ^ k = 2 ^ (k + 52) := by
      rw [show (2 : ℚ) ^ (k + 52) = 2 ^ 52 * 2 ^ k from two_zpow_add_nat k 52]
      norm_num
    refine (least_multiple (2 ^ 52)).trans ?_
    rw [power, abs_sub_comm, abs_of_nonneg (by linarith), abs_sub_comm,
      abs_of_nonneg (by linarith)]
    linarith

/-- The error is bounded by the size. -/
theorem Nearest.error_le (near : Nearest w v) (least : -1074 ≤ k) (nonneg : 0 ≤ w)
    (small : w ≤ 2 ^ (k + 53)) : |v - w| ≤ 2 ^ k / 2 := by
  have positive := two_zpow_pos k
  have power : (2 : ℚ) ^ (k + 53) = 2 ^ 53 * 2 ^ k := two_zpow_add_nat k 53
  obtain ⟨x, rfl⟩ : ∃ x, w = x * 2 ^ k := ⟨w / 2 ^ k, (div_mul_cancel₀ _ positive.ne').symm⟩
  have nonneg : 0 ≤ x := nonneg_of_mul_nonneg_left nonneg positive
  have bounded : x ≤ 2 ^ 53 := le_of_mul_le_mul_right (small.trans_eq power) positive
  have low := Nat.floor_le (show 0 ≤ x + 1 / 2 by linarith)
  have high := Nat.lt_floor_add_one (x + 1 / 2)
  generalize ⌊x + 1 / 2⌋₊ = n at low high
  have digits : n ≤ 2 ^ 53 := by
    have below : (n : ℚ) < (2 ^ 53 + 1 : ℕ) := by
      push_cast
      linarith
    exact Nat.lt_succ_iff.1 (by exact_mod_cast below)
  calc |v - x * 2 ^ k| ≤ |n * 2 ^ k - x * 2 ^ k| := near.least _ (fits_mul_two_zpow digits least)
    _ = |n - x| * 2 ^ k := by rw [← sub_mul, abs_mul, abs_of_pos positive]
    _ ≤ 1 / 2 * 2 ^ k := by
      refine mul_le_mul_of_nonneg_right (abs_le.2 ⟨?_, ?_⟩) positive.le <;> linarith
    _ = 2 ^ k / 2 := by ring

theorem eq_of_multiples {a b : ℕ} (near : |(a : ℚ) * 2 ^ k - b * 2 ^ k| < 2 ^ k) : a = b := by
  have positive := two_zpow_pos k
  rw [← sub_mul, abs_mul, abs_of_pos positive, mul_lt_iff_lt_one_left positive] at near
  have whole : |(a : ℤ) - b| < 1 := by exact_mod_cast near
  have none := Int.abs_lt_one_iff.1 whole
  omega

/-- A double that is less than half the distance of doubles away is what is rounded to. -/
theorem Nearest.eq_of_near (near : Nearest w v) (fits : Fits u) (least : -1074 ≤ k)
    (large : 2 ^ (k + 52) ≤ w) (close : |u - w| < 2 ^ k / 2) : v = u := by
  have positive := two_zpow_pos k
  have power : (2 : ℚ) ^ (k + 52) = (2 ^ 52 : ℕ) * 2 ^ k := by
    rw [show (2 : ℚ) ^ (k + 52) = 2 ^ 52 * 2 ^ k from two_zpow_add_nat k 52]
    norm_num
  have half : (2 : ℚ) ^ k = 2 * 2 ^ (k - 1) := by
    rw [← zpow_one_add₀ (by norm_num)]
    congr 1
    omega
  have above := near.least u fits
  obtain ⟨low, high⟩ := abs_lt.1 close
  have error := abs_le.1 (above.trans close.le)
  -- `v` is not below the power of two, which is a double itself and nearer then
  have top : (2 : ℚ) ^ (k + 52) ≤ v := by
    by_contra below
    have other := near.least _ (power ▸ fits_mul_two_zpow (by norm_num) least)
    rw [abs_of_nonpos (by linarith), abs_of_nonpos (by linarith)] at other
    linarith
  obtain ⟨b, rfl⟩ := near.fits.multiple (.inr top)
  have apart : |u - b * 2 ^ k| < 2 ^ k := by
    calc |u - b * 2 ^ k| ≤ |u - w| + |w - b * 2 ^ k| := abs_sub_le ..
      _ = |u - w| + |b * 2 ^ k - w| := by rw [abs_sub_comm w]
      _ < 2 ^ k := by linarith
  by_cases far : (2 : ℚ) ^ (k + 52) ≤ u
  · obtain ⟨a, rfl⟩ := fits.multiple (.inr far)
    rw [eq_of_multiples apart]
  · -- below the power of two doubles lie twice as close, and still too far apart for `u`
    exfalso
    have doubled : (2 : ℚ) ^ (k + 52) = (2 ^ 53 : ℕ) * 2 ^ (k - 1) := by
      rw [power, half]
      push_cast
      ring
    have finer : (2 : ℚ) ^ (k - 1 + 52) ≤ u := by
      rw [show (2 : ℚ) ^ (k - 1 + 52) = 2 ^ 52 * 2 ^ (k - 1) from two_zpow_add_nat (k - 1) 52]
      push_cast at doubled
      linarith
    obtain ⟨a, rfl⟩ := fits.multiple (.inr finer)
    have same : a = 2 ^ 53 := eq_of_multiples <| by
      rw [← doubled]
      exact abs_lt.2 ⟨by linarith, by linarith⟩
    rw [same, ← doubled] at far
    exact far le_rfl

end Rational

open Float.Model (UnpackedFloat Format totalExponent)
open Float.Model.UnpackedFloat

/-! ### Rests -/

/-- The mantissa and the two bits behind it say where a number lies. -/
def Holds : ExtendedMantissa → ℚ → Prop
  | ⟨m, false, false⟩, v => v = m
  | ⟨m, false, true⟩, v => m < v ∧ v < m + 1 / 2
  | ⟨m, true, false⟩, v => v = m + 1 / 2
  | ⟨m, true, true⟩, v => m + 1 / 2 < v ∧ v < m + 1

theorem holds_exact (m : ℕ) : Holds (.ofMantissaAndAccuracy m .exact) m := rfl

theorem holds_fraction (m : ℕ) {num den : ℕ} (proper : num < den) :
    Holds (.ofMantissaAndAccuracy m (accuracyOfFraction num den)) (m + num / den) := by
  have positive : (0 : ℚ) < den := by exact_mod_cast Nat.zero_lt_of_lt proper
  have below : (num : ℚ) < den := by exact_mod_cast proper
  unfold accuracyOfFraction
  split
  · next zero => simp [zero, Holds, ExtendedMantissa.ofMantissaAndAccuracy]
  · next nonzero =>
    have above : (0 : ℚ) < num := by exact_mod_cast Nat.pos_of_ne_zero nonzero
    have some : 0 < (num : ℚ) / den := div_pos above positive
    have fraction : (num : ℚ) / den < 1 := (div_lt_one positive).2 below
    obtain less | same | more := Nat.lt_trichotomy (2 * num) den
    · have half : (num : ℚ) / den < 1 / 2 := by
        rw [div_lt_div_iff₀ positive (by norm_num)]
        exact_mod_cast (by omega : num * 2 < 1 * den)
      rw [Nat.compare_eq_lt.2 less]
      exact ⟨by linarith, by linarith⟩
    · have half : (num : ℚ) / den = 1 / 2 := by
        rw [div_eq_div_iff positive.ne' (by norm_num)]
        exact_mod_cast (by omega : num * 2 = 1 * den)
      rw [Nat.compare_eq_eq.2 same, half]
      rfl
    · have half : 1 / 2 < (num : ℚ) / den := by
        rw [div_lt_div_iff₀ (by norm_num) positive]
        exact_mod_cast (by omega : 1 * den < num * 2)
      rw [Nat.compare_eq_gt.2 more]
      exact ⟨by linarith, by linarith⟩

section Holds

variable {em : ExtendedMantissa} {v : ℚ}

theorem Holds.le (holds : Holds em v) : em.mantissa ≤ v := by
  obtain ⟨m, half, rest⟩ := em
  cases half <;> cases rest <;> dsimp only [Holds] at holds ⊢ <;> linarith

theorem Holds.shiftRightOne (holds : Holds em v) : Holds em.shiftRightOne (v / 2) := by
  obtain ⟨m, half, rest⟩ := em
  obtain ⟨h, rfl | rfl⟩ : ∃ h, m = 2 * h ∨ m = 2 * h + 1 := ⟨m / 2, by omega⟩
  · have even : ExtendedMantissa.shiftRightOne ⟨2 * h, half, rest⟩ = ⟨h, false, half || rest⟩ := by
      simp [ExtendedMantissa.shiftRightOne]
    rw [even]
    cases half <;> cases rest <;> simp [Holds] at holds ⊢ <;> try constructor
    all_goals linarith
  · have odd : ExtendedMantissa.shiftRightOne ⟨2 * h + 1, half, rest⟩ =
        ⟨h, true, half || rest⟩ := by
      simp [ExtendedMantissa.shiftRightOne]
      omega
    rw [odd]
    cases half <;> cases rest <;> simp [Holds] at holds ⊢ <;> try constructor
    all_goals linarith

theorem Holds.shiftRight (holds : Holds em v) (n : ℕ) : Holds (em >>> n) (v / 2 ^ n) := by
  induction n with
  | zero =>
    rw [pow_zero, div_one]
    exact holds
  | succ n ih =>
    rw [pow_succ, ← div_div]
    exact ih.shiftRightOne

theorem Holds.roundedMantissa (holds : Holds em v) : |em.roundedMantissa - v| ≤ 1 / 2 := by
  obtain ⟨m, half, rest⟩ := em
  cases half <;> cases rest
  · have same : v = m := holds
    rw [same]
    show |(m : ℚ) - m| ≤ 1 / 2
    norm_num
  · obtain ⟨above, below⟩ := holds
    show |(m : ℚ) - v| ≤ 1 / 2
    exact abs_le.2 ⟨by linarith, by linarith⟩
  · have middle : v = m + 1 / 2 := holds
    rw [middle]
    show |((m + m % 2 : ℕ) : ℚ) - (m + 1 / 2)| ≤ 1 / 2
    obtain even | odd := Nat.mod_two_eq_zero_or_one m
    · rw [even]
      norm_num
    · rw [odd]
      norm_num
  · obtain ⟨above, below⟩ := holds
    show |((m + 1 : ℕ) : ℚ) - v| ≤ 1 / 2
    push_cast
    exact abs_le.2 ⟨by linarith, by linarith⟩

end Holds

/-! ### Rounding -/

def valueOf : UnpackedFloat → ℚ
  | .finite s m e _ => s.apply m * 2 ^ e
  | _ => 0

/-- Positive zero, or a positive number with as many digits as its exponent has room for. -/
def Canonical : UnpackedFloat → Prop
  | .zero .positive => True
  | .finite .positive m e _ => m < 2 ^ 53 ∧ -1074 ≤ e ∧ (2 ^ 52 ≤ m ∨ e = -1074)
  | _ => False

/-- A nonnegative number rounded to a double. -/
structure Rounds (w : ℚ) (u : UnpackedFloat) : Prop where
  canonical : Canonical u
  nearest : Nearest w (valueOf u)

theorem Canonical.fits {u : UnpackedFloat} (canonical : Canonical u) : Fits (valueOf u) := by
  unfold Canonical at canonical
  split at canonical
  · exact ⟨0, 0, by norm_num, by norm_num, by simp [valueOf]⟩
  · next m e _ =>
    obtain ⟨small, least, -⟩ := canonical
    exact ⟨m, e, small, least, rfl⟩
  · exact canonical.elim

theorem Canonical.rounds {u : UnpackedFloat} (canonical : Canonical u) : Rounds (valueOf u) u :=
  ⟨canonical, nearest_self canonical.fits⟩

theorem rounds_zero : Rounds 0 (.zero .positive) := Canonical.rounds (u := .zero .positive) trivial

section Shift

variable {m : ℕ} {e : ℤ}

/-- A mantissa of at most 53 digits stays where it is. -/
theorem shiftToTargetExponent_of_lt (small : m < 2 ^ 53) (least : -1074 ≤ e) :
    shiftToTargetExponent Format.binary64 m e .exact = (⟨m, false, false⟩, e) := by
  have digits : m.log2 ≤ 52 := by
    by_cases zero : m = 0
    · simp [zero]
    · exact Nat.lt_succ_iff.1 ((Nat.log2_lt zero).2 small)
  unfold shiftToTargetExponent shiftToExponent
  dsimp only
  rw [targetExponent_eq, show (max ((m.log2 : ℤ) + e - 52) (-1074) - e).toNat = 0 by omega]
  simp
  rfl

/-- A mantissa that was rounded up to 54 digits loses the last of them. -/
theorem shiftToTargetExponent_two_pow (least : -1074 ≤ e) :
    shiftToTargetExponent Format.binary64 (2 ^ 53) e .exact = (⟨2 ^ 52, false, false⟩, e + 1) := by
  unfold shiftToTargetExponent shiftToExponent
  dsimp only
  rw [targetExponent_eq, Nat.log2_two_pow,
    show (max (((53 : ℕ) : ℤ) + e - 52) (-1074) - e).toNat = 1 by omega]
  rfl

/-- What is left of a rounded mantissa: one that has become too long ends in a zero. -/
def settled (r : ℕ) (t : ℤ) : UnpackedFloat :=
  if zero : r = 0 then .zero .positive
  else if r < 2 ^ 53 then .finite .positive r t (Nat.pos_of_ne_zero zero)
  else .finite .positive (2 ^ 52) (t + 1) (by decide)

variable {r : ℕ} {t : ℤ}

theorem valueOf_settled (small : r ≤ 2 ^ 53) : valueOf (settled r t) = r * 2 ^ t := by
  unfold settled
  split
  · next zero => simp [zero, valueOf]
  · split
    · rfl
    · have most : r = 2 ^ 53 := by omega
      rw [most]
      simp only [valueOf, Sign.apply]
      rw [zpow_add₀ (by norm_num)]
      push_cast
      ring

theorem canonical_settled (least : -1074 ≤ t) (full : 2 ^ 52 ≤ r ∨ t = -1074) :
    Canonical (settled r t) := by
  unfold settled
  split
  · trivial
  · split
    · next below => exact ⟨below, least, full⟩
    · exact ⟨by norm_num, by omega, .inl le_rfl⟩

theorem roundWithAccuracy_eq {em : ExtendedMantissa} {a : Accuracy}
    (first : shiftToTargetExponent Format.binary64 m e a = (em, t))
    (small : em.roundedMantissa ≤ 2 ^ 53) (least : -1074 ≤ t) :
    roundWithAccuracy Format.binary64 .positive m e a = settled em.roundedMantissa t := by
  unfold roundWithAccuracy settled
  rw [first]
  dsimp only
  by_cases below : em.roundedMantissa < 2 ^ 53
  · rw [shiftToTargetExponent_of_lt below least]
    simp only [below, if_true]
  · have most : em.roundedMantissa = 2 ^ 53 := by omega
    rw [most, shiftToTargetExponent_two_pow least]
    rfl

/-- The digits of a number that its exponent has room for are rounded correctly, whatever is known
of the others, if there are as many of them. -/
theorem roundWithAccuracy_rounds {a : Accuracy} {v : ℚ}
    (holds : Holds (.ofMantissaAndAccuracy m a) v) (precise : 52 ≤ m.log2 ∨ e ≤ -1074) :
    Rounds (v * 2 ^ e) (roundWithAccuracy Format.binary64 .positive m e a) := by
  have exponent := exponent_shiftToTargetExponent m e a
  have below := mantissa_shiftToTargetExponent_lt m e a
  obtain ⟨n, shift⟩ : ∃ n : ℕ, shiftToTargetExponent Format.binary64 m e a =
      (ExtendedMantissa.ofMantissaAndAccuracy m a >>> n, e + n) := ⟨_, rfl⟩
  rw [shift] at exponent below
  dsimp only at exponent below
  have least : -1074 ≤ e + n := by omega
  have small : (ExtendedMantissa.ofMantissaAndAccuracy m a >>> n).roundedMantissa ≤ 2 ^ 53 :=
    (roundedMantissa_le _).trans below
  have near := (holds.shiftRight n).roundedMantissa
  have scaled : v * 2 ^ e / 2 ^ (e + n) = v / 2 ^ n := by
    have positive := two_zpow_pos e
    rw [two_zpow_add_nat e n, mul_div_mul_right _ _ positive.ne']
  have large : e + n = -1074 ∨ (2 : ℚ) ^ (e + n + 52) ≤ v * 2 ^ e := by
    by_cases lowest : e + n = -1074
    · exact .inl lowest
    · have nonzero : m ≠ 0 := by
        rintro rfl
        simp at exponent precise
        omega
      have first : (2 ^ m.log2 : ℕ) ≤ v := by
        have front := holds.le
        rw [mantissa_ofMantissaAndAccuracy] at front
        exact le_trans (by exact_mod_cast Nat.log2_self_le nonzero) front
      refine .inr ?_
      rw [show e + n + 52 = e + m.log2 by omega, two_zpow_add_nat]
      refine mul_le_mul_of_nonneg_right ?_ (two_zpow_pos e).le
      exact_mod_cast first
  rw [roundWithAccuracy_eq shift small least]
  generalize (ExtendedMantissa.ofMantissaAndAccuracy m a >>> n).roundedMantissa = r at small near
  refine ⟨canonical_settled least ?_, ?_⟩
  · refine large.symm.imp (fun large => ?_) id
    rw [← scaled] at near
    have digits : (2 : ℚ) ^ 52 ≤ v * 2 ^ e / 2 ^ (e + n) := by
      rw [le_div_iff₀ (two_zpow_pos _)]
      exact (two_zpow_add_nat (e + n) 52).symm.trans_le large
    have whole : ((2 ^ 52 : ℕ) : ℚ) < (r + 1 : ℕ) := by
      push_cast
      linarith [(abs_le.1 near).1]
    exact Nat.lt_succ_iff.1 (by exact_mod_cast whole)
  · rw [valueOf_settled small]
    exact nearest_of_multiple small least (scaled ▸ near) large

end Shift

/-! ### Operations -/

section Operations

variable {x y : UnpackedFloat}

theorem shiftLeft_mul_two_zpow (m d : ℕ) (e : ℤ) :
    ((m <<< d : ℕ) : ℚ) * 2 ^ e = m * 2 ^ (e + d) := by
  rw [Nat.shiftLeft_eq, two_zpow_add_nat]
  push_cast
  ring

theorem log2_shiftLeft {m : ℕ} (positive : 0 < m) (d : ℕ) : (m <<< d).log2 = m.log2 + d := by
  have room := Nat.two_pow_pos d
  rw [Nat.shiftLeft_eq, Nat.log2_eq_iff (Nat.mul_pos positive room).ne']
  constructor
  · rw [Nat.pow_add]
    exact Nat.mul_le_mul_right _ (Nat.log2_self_le positive.ne')
  · rw [Nat.add_right_comm, Nat.pow_add]
    exact Nat.mul_lt_mul_of_pos_right Nat.lt_log2_self room

theorem le_log2_div {m n k : ℕ} (positive : 0 < m) (wide : 2 ^ (m.log2 + 1 + k) ≤ n) :
    k ≤ (n / m).log2 := by
  have digits : 2 ^ k ≤ n / m := by
    rw [Nat.le_div_iff_mul_le positive]
    calc 2 ^ k * m ≤ 2 ^ k * 2 ^ (m.log2 + 1) := Nat.mul_le_mul_left _ Nat.lt_log2_self.le
      _ = 2 ^ (m.log2 + 1 + k) := by rw [← Nat.pow_add, Nat.add_comm]
      _ ≤ n := wide
  exact (Nat.le_log2 ((Nat.two_pow_pos k).trans_le digits).ne').2 digits

theorem round_rounds {m : ℕ} (positive : 0 < m) (e : ℤ) :
    Rounds (m * 2 ^ e) (UnpackedFloat.round Format.binary64 .positive m e) := by
  unfold UnpackedFloat.round decreaseExponent
  dsimp only
  rw [targetExponent_eq]
  generalize shift : (e - max ((m.log2 : ℤ) + e - 52) (-1074)).toNat = d
  have precise : 52 ≤ (m <<< d).log2 ∨ e - d ≤ -1074 := by
    rw [log2_shiftLeft positive]
    omega
  have rounds := roundWithAccuracy_rounds (holds_exact (m <<< d)) precise
  rw [shiftLeft_mul_two_zpow, Int.sub_add_cancel] at rounds
  exact rounds

theorem normalize_rounds (m : ℕ) (e : ℤ) :
    Rounds (m * 2 ^ e) (UnpackedFloat.normalize Format.binary64 m e .positive) := by
  unfold UnpackedFloat.normalize
  split
  · next negative =>
    have below : (m : ℤ) < 0 := Int.compare_eq_lt.1 negative
    omega
  · next zero =>
    have none : m = 0 := by exact_mod_cast Int.compare_eq_eq.1 zero
    rw [none, Nat.cast_zero, zero_mul]
    exact rounds_zero
  · next positive =>
    have above : (0 : ℤ) < m := Int.compare_eq_gt.1 positive
    exact round_rounds (by omega) e

theorem ofUInt64_rounds (n : UInt64) : Rounds n.toNat (ofUInt64 Format.binary64 n) := by
  have rounds := normalize_rounds n.toNat 0
  rw [zpow_zero, mul_one] at rounds
  exact rounds

theorem div_rounds (canonical : Canonical x) {m : ℕ} {e : ℤ} (positive : 0 < m) :
    Rounds (valueOf x / (m * 2 ^ e)) (div Format.binary64 x (.finite .positive m e positive)) := by
  unfold Canonical at canonical
  split at canonical
  · show Rounds (0 / _) _
    rw [zero_div]
    exact rounds_zero
  · next m₁ e₁ positive₁ =>
    unfold div divCore
    dsimp only
    rw [show Format.binary64.targetExponent (totalExponent m₁ e₁ - totalExponent m e) =
        max ((m₁.log2 : ℤ) + e₁ - (m.log2 + e) - 53) (-1074) by
      simp only [Format.targetExponent, totalExponent, Format.mantissaBits, Format.minExponent]
      omega]
    generalize target : min (e₁ - e) (max ((m₁.log2 : ℤ) + e₁ - (m.log2 + e) - 53) (-1074)) = t
    generalize shift : (e₁ - e - t).toNat = d
    have precise : 52 ≤ ((m₁ <<< d) / m).log2 ∨ t ≤ -1074 := by
      by_cases low : t ≤ -1074
      · exact .inr low
      · have wide : m.log2 + 1 + 52 ≤ m₁.log2 + d := by omega
        refine .inl (le_log2_div positive (Nat.le_trans (Nat.pow_le_pow_right (by decide) wide) ?_))
        rw [← log2_shiftLeft positive₁]
        exact Nat.log2_self_le (by simp [Nat.shiftLeft_eq, positive₁.ne'])
    have rounds := roundWithAccuracy_rounds
      (holds_fraction ((m₁ <<< d) / m) (Nat.mod_lt (m₁ <<< d) positive)) precise
    have same : (((m₁ <<< d) / m : ℕ) + ((m₁ <<< d) % m : ℕ) / (m : ℚ)) * 2 ^ t =
        m₁ * 2 ^ e₁ / (m * 2 ^ e) := by
      have divisor : (m : ℚ) ≠ 0 := by exact_mod_cast positive.ne'
      have power := two_zpow_pos e
      have whole : (m : ℚ) * ((m₁ <<< d) / m : ℕ) + ((m₁ <<< d) % m : ℕ) = (m₁ <<< d : ℕ) := by
        exact_mod_cast Nat.div_add_mod (m₁ <<< d) m
      have moved : e₁ = t + d + e := by omega
      rw [moved, zpow_add₀ (by norm_num), ← mul_assoc, ← shiftLeft_mul_two_zpow, ← whole]
      field_simp
    rw [same] at rounds
    exact rounds
  · exact canonical.elim

theorem add_rounds (first : Canonical x) (second : Canonical y) :
    Rounds (valueOf x + valueOf y) (add Format.binary64 x y) := by
  have whole := first
  unfold Canonical at first
  split at first
  · show Rounds (0 + _) _
    rw [zero_add]
    have rest := second.rounds
    unfold Canonical at second
    split at second
    · exact rest
    · exact rest
    · exact second.elim
  · next m₁ e₁ _ =>
    have rest := second
    unfold Canonical at second
    split at second
    · show Rounds (_ + 0) _
      rw [add_zero]
      exact whole.rounds
    · next m₂ e₂ _ =>
      unfold add decreaseExponent
      dsimp only [Sign.apply]
      generalize shift₁ : (e₁ - min e₁ e₂).toNat = d₁
      generalize shift₂ : (e₂ - min e₁ e₂).toNat = d₂
      have rounds := normalize_rounds (m₁ <<< d₁ + m₂ <<< d₂) (min e₁ e₂)
      rw [Nat.cast_add, add_mul, shiftLeft_mul_two_zpow, shiftLeft_mul_two_zpow,
        show min e₁ e₂ + d₁ = e₁ by omega, show min e₁ e₂ + d₂ = e₂ by omega] at rounds
      exact rounds
    · exact second.elim
  · exact first.elim

end Operations

end ShaderFilm.Number
