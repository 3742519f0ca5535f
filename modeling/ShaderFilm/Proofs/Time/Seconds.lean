import Mathlib
import ShaderFilm.Proofs.Number.Value
import ShaderFilm.Time.Span

/-!
# Seconds and spans

A number of seconds becomes a span by rounding it to whole nanoseconds, and a span becomes a number
of seconds by three roundings to doubles.  From a number to a span and back less than a nanosecond
is lost, and nothing where the number is a whole number of nanoseconds, or so large that doubles lie
further apart than nanoseconds do (`Rounded`).
-/

namespace ShaderFilm.Number

/-- The whole number next to `w`, of two the even one. -/
structure NearestEven (w : ℚ) (n : ℕ) : Prop where
  near : |n - w| ≤ 1 / 2
  even : |n - w| = 1 / 2 → Even n

section NearestEven

variable {w : ℚ} {m n : ℕ}

theorem NearestEven.le (above : NearestEven w n) (least : m ≤ w) : m ≤ n := by
  have bound := (abs_le.1 above.near).1
  have below : (m : ℚ) < (n + 1 : ℕ) := by
    push_cast
    linarith
  exact Nat.lt_succ_iff.1 (by exact_mod_cast below)

theorem NearestEven.lt (below : NearestEven w n) (most : w ≤ m - 1) : n < m := by
  have bound := (abs_le.1 below.near).2
  have short : (n : ℚ) < m := by linarith
  exact_mod_cast short

/-- Of two neighbours that are equally near, one is odd. -/
theorem NearestEven.le_of_nearestEven (first : NearestEven w m) (second : NearestEven w n) :
    m ≤ n := by
  obtain ⟨-, high⟩ := abs_le.1 first.near
  obtain ⟨low, -⟩ := abs_le.1 second.near
  by_contra more
  have above : ((n + 1 : ℕ) : ℚ) ≤ m := by exact_mod_cast Nat.lt_of_not_le more
  push_cast at above
  have next : (m : ℚ) = (n + 1 : ℕ) := by
    push_cast
    linarith
  have half : |(m : ℚ) - w| = 1 / 2 := by
    rw [abs_of_nonneg (by linarith)]
    linarith
  have other : |(n : ℚ) - w| = 1 / 2 := by
    rw [abs_of_nonpos (by linarith)]
    linarith
  obtain rfl : m = n + 1 := by exact_mod_cast next
  exact Nat.even_add_one.1 (first.even half) (second.even other)

theorem NearestEven.unique (first : NearestEven w m) (second : NearestEven w n) : m = n :=
  Nat.le_antisymm (first.le_of_nearestEven second) (second.le_of_nearestEven first)

theorem nearestEven_self (n : ℕ) : NearestEven n n := ⟨by simp, by simp⟩

theorem roundQuotient_nearest (num : ℕ) {den : ℕ} (positive : 0 < den) :
    NearestEven (num / den) (roundQuotient num den) := by
  have divisor : (0 : ℚ) < den := by exact_mod_cast positive
  have parts : (num : ℚ) / den = (num / den : ℕ) + (num % den : ℕ) / (den : ℚ) := by
    rw [div_eq_iff divisor.ne', add_mul, div_mul_cancel₀ _ divisor.ne']
    exact_mod_cast (Nat.div_add_mod' num den).symm
  have proper := Nat.mod_lt num positive
  rw [parts]
  unfold roundQuotient
  dsimp only
  generalize num / den = low
  generalize num % den = rest at proper
  have nonneg : (0 : ℚ) ≤ rest / den := by positivity
  have fraction : (rest : ℚ) / den < 1 := (div_lt_one divisor).2 (by exact_mod_cast proper)
  split
  · next less =>
    have half : (rest : ℚ) / den < 1 / 2 := by
      rw [div_lt_div_iff₀ divisor (by norm_num)]
      exact_mod_cast (by omega : rest * 2 < 1 * den)
    have error : |(low : ℚ) - (low + rest / den)| < 1 / 2 :=
      abs_lt.2 ⟨by linarith, by linarith⟩
    exact ⟨error.le, fun same => absurd same error.ne⟩
  · split
    · next more =>
      have half : 1 / 2 < (rest : ℚ) / den := by
        rw [div_lt_div_iff₀ (by norm_num) divisor]
        exact_mod_cast (by omega : 1 * den < rest * 2)
      have error : |((low + 1 : ℕ) : ℚ) - (low + rest / den)| < 1 / 2 := by
        push_cast
        exact abs_lt.2 ⟨by linarith, by linarith⟩
      exact ⟨error.le, fun same => absurd same error.ne⟩
    · have half : (rest : ℚ) / den = 1 / 2 := by
        rw [div_eq_div_iff divisor.ne' (by norm_num)]
        exact_mod_cast (by omega : rest * 2 = 1 * den)
      rw [half]
      obtain even | odd := Nat.mod_two_eq_zero_or_one low
      · rw [even]
        exact ⟨by norm_num, fun _ => Nat.even_iff.2 even⟩
      · rw [odd]
        exact ⟨by norm_num, fun _ => Nat.even_add_one.2 (by simp [Nat.even_iff, odd])⟩

end NearestEven

end ShaderFilm.Number

namespace ShaderFilm.Time.Span

open ShaderFilm.Number

/-- The span in nanoseconds. -/
def total (d : Span) : ℕ := d.seconds * nanosPerSecond + d.nanos

theorem ofParts?_zero_eq_some_iff (n : ℕ) (d : Span) : ofParts? 0 n = some d ↔ d.total = n := by
  obtain ⟨seconds, nanos, seconds_lt, nanos_lt⟩ := d
  have limit : nanosPerSecond = 1000000000 := rfl
  unfold ofParts? total
  dsimp only
  split
  · simp only [Option.some.injEq, Span.mk.injEq, limit] at nanos_lt ⊢
    omega
  · next large =>
    simp only [reduceCtorEq, false_iff, limit] at nanos_lt large ⊢
    omega

/-- The number of nanoseconds that a number of seconds is rounded to. -/
theorem exists_ofFloat?_eq {x : Float} (finite : x.isFinite = true) (nonneg : ¬ x < 0.0) :
    ∃ n, NearestEven (value x * 10 ^ 9) n ∧ ofFloat? x = ofParts? 0 n := by
  obtain ⟨m, q, split, -, -, same⟩ := exists_split finite nonneg
  unfold ofFloat?
  rw [if_neg (by simp [finite, nonneg]), split, same]
  dsimp only
  refine ⟨_, ?_, rfl⟩
  have billion : (nanosPerSecond : ℚ) = 10 ^ 9 := by norm_num [nanosPerSecond]
  split
  · next whole =>
    obtain ⟨n, rfl⟩ := Int.eq_ofNat_of_zero_le whole
    have exact : (m : ℚ) * 2 ^ ((n : ℕ) : ℤ) * 10 ^ 9 = (m * 2 ^ n * nanosPerSecond : ℕ) := by
      push_cast
      rw [billion, zpow_natCast]
    exact exact ▸ nearestEven_self _
  · next fraction =>
    obtain ⟨n, rfl⟩ : ∃ n : ℕ, q = -n := ⟨(-q).toNat, by omega⟩
    have exact : (m : ℚ) * 2 ^ (-(n : ℤ)) * 10 ^ 9 =
        (m * nanosPerSecond : ℕ) / ((2 ^ n : ℕ) : ℚ) := by
      push_cast
      rw [billion, zpow_neg, zpow_natCast]
      ring
    rw [exact, neg_neg]
    exact roundQuotient_nearest _ (Nat.two_pow_pos n)

theorem ofFloat?_eq_some_iff (x : Float) (d : Span) :
    ofFloat? x = some d ↔
      x.isFinite = true ∧ ¬ x < 0.0 ∧ NearestEven (value x * 10 ^ 9) d.total := by
  by_cases usable : x.isFinite = true ∧ ¬ x < 0.0
  · obtain ⟨finite, nonneg⟩ := usable
    obtain ⟨n, near, same⟩ := exists_ofFloat?_eq finite nonneg
    rw [same, ofParts?_zero_eq_some_iff]
    exact ⟨fun total => ⟨finite, nonneg, total ▸ near⟩, fun ⟨_, _, other⟩ => other.unique near⟩
  · have refused : ofFloat? x = none := by
      unfold ofFloat?
      rw [if_pos]
      by_cases negative : x < 0.0 <;> simp_all
    rw [refused]
    exact ⟨nofun, fun ⟨finite, nonneg, _⟩ => absurd ⟨finite, nonneg⟩ usable⟩

theorem total_lt (d : Span) : d.total < 2 ^ 64 * nanosPerSecond := by
  have seconds : d.seconds + 1 ≤ 2 ^ 64 := d.seconds_lt
  have carried := Nat.mul_le_mul_right nanosPerSecond seconds
  have nanos := d.nanos_lt
  unfold total
  rw [Nat.succ_mul] at carried
  omega

theorem exists_ofFloat?_iff (x : Float) :
    (∃ d, ofFloat? x = some d) ↔ x.isFinite = true ∧ ¬ x < 0.0 ∧ value x < 2 ^ 64 := by
  have billion : (nanosPerSecond : ℚ) = 10 ^ 9 := by norm_num [nanosPerSecond]
  constructor
  · rintro ⟨d, some⟩
    obtain ⟨finite, nonneg, near⟩ := (ofFloat?_eq_some_iff x d).1 some
    refine ⟨finite, nonneg, ?_⟩
    have bound : ((d.total + 1 : ℕ) : ℚ) ≤ (2 ^ 64 * nanosPerSecond : ℕ) := by
      exact_mod_cast d.total_lt
    push_cast [billion] at bound
    have close := (abs_le.1 near.near).1
    linarith
  · rintro ⟨finite, nonneg, below⟩
    obtain ⟨n, near, same⟩ := exists_ofFloat?_eq finite nonneg
    have most : value x ≤ (2 ^ 64 - 1 : ℕ) :=
      (fits_value finite nonneg).le_of_lt_succ (by norm_num) (by norm_num; linarith)
    have short : n < 2 ^ 64 * nanosPerSecond := near.lt <| by
      push_cast [billion] at most ⊢
      linarith
    have fits : 0 + n / nanosPerSecond < wordLimit := by
      rw [Nat.zero_add, Nat.div_lt_iff_lt_mul (by decide)]
      exact short
    rw [same]
    exact ⟨_, dif_pos fits⟩

theorem toFloat_nearest (d : Span) :
    ∃ s f, Nearest d.seconds s ∧ Nearest (d.nanos / 10 ^ 9) f ∧
      Nearest (s + f) (value d.toFloat) := by
  have seconds := toFloat_rounds (UInt64.ofNat d.seconds)
  have nanos := toFloat_rounds (UInt64.ofNat d.nanos)
  have below : d.nanos < 1000000000 := d.nanos_lt
  rw [UInt64.toNat_ofNat_of_lt' d.seconds_lt] at seconds
  rw [UInt64.toNat_ofNat_of_lt' (below.trans (by decide))] at nanos
  have exact : value (UInt64.ofNat d.nanos).toFloat = d.nanos :=
    nanos.nearest.eq_of_fits (fits_natCast (by omega))
  have quotient := div_billion_rounds nanos.canonical (Number.toFloat_scaled _) (by norm_num)
    (by norm_num)
  rw [exact] at quotient
  refine ⟨_, _, seconds.nearest, quotient.nearest, ?_⟩
  exact (add_rounds_float seconds.canonical quotient.canonical
    ((Number.toFloat_scaled _).mono (by norm_num))
    (div_billion_scaled (Number.toFloat_scaled _) (by norm_num) (by norm_num))
    (by norm_num) (by norm_num)).nearest

/-! ### There and back -/

section Back

variable {y : ℚ} {d : Span}

/-- The parts that a whole number of seconds has. -/
theorem parts_of_whole {m : ℕ} (near : NearestEven (m * 10 ^ 9) d.total) :
    d.seconds = m ∧ d.nanos = 0 := by
  have exact : (m : ℚ) * 10 ^ 9 = (m * nanosPerSecond : ℕ) := by norm_num [nanosPerSecond]
  have same : d.total = m * nanosPerSecond := near.unique (exact ▸ nearestEven_self _)
  have below := d.nanos_lt
  unfold total nanosPerSecond at same
  unfold nanosPerSecond at below
  omega

theorem value_toFloat_of_fits (seconds : Fits d.seconds) (nanos : Fits (d.nanos / 10 ^ 9))
    (sum : Fits (d.seconds + d.nanos / 10 ^ 9)) : value d.toFloat = d.seconds + d.nanos / 10 ^ 9 := by
  obtain ⟨s, f, first, second, third⟩ := d.toFloat_nearest
  rw [first.eq_of_fits seconds, second.eq_of_fits nanos] at third
  exact third.eq_of_fits sum

theorem value_toFloat_of_large (near : NearestEven (y * 10 ^ 9) d.total) (fits : Fits y)
    (large : 2 ^ 52 ≤ y) : value d.toFloat = y := by
  obtain ⟨m, rfl⟩ := fits.multiple (k := 0) (.inr large)
  rw [zpow_zero, mul_one] at *
  obtain ⟨seconds, nanos⟩ := parts_of_whole near
  have none : (d.nanos : ℚ) / 10 ^ 9 = 0 := by rw [nanos]; norm_num
  have same := value_toFloat_of_fits (d := d) (seconds ▸ fits) (none ▸ fits_natCast (n := 0) (by norm_num))
    (by rwa [none, add_zero, seconds])
  rwa [none, add_zero, seconds] at same

theorem nanos_div_le_one (d : Span) : (d.nanos : ℚ) / 10 ^ 9 ≤ 1 := by
  have below : (d.nanos : ℚ) ≤ (nanosPerSecond : ℕ) := by exact_mod_cast d.nanos_lt.le
  rw [div_le_one (by norm_num)]
  norm_num [nanosPerSecond] at below ⊢
  exact below

theorem near_parts (near : NearestEven (y * 10 ^ 9) d.total) :
    |(d.seconds : ℚ) + d.nanos / 10 ^ 9 - y| ≤ 1 / 2 / 10 ^ 9 := by
  have total : ((d.seconds : ℚ) + d.nanos / 10 ^ 9 - y) * 10 ^ 9 = d.total - y * 10 ^ 9 := by
    unfold total nanosPerSecond
    push_cast
    ring
  have positive : (0 : ℚ) < 10 ^ 9 := by norm_num
  rw [le_div_iff₀ positive, ← abs_of_pos positive, ← abs_mul, abs_of_pos positive, total]
  exact near.near

/-- A double that is a whole number of nanoseconds is one of 512th parts of a second: what a second
has of nanoseconds is `2 ^ 9` times an odd number. -/
theorem exists_parts_of_nanos (fits : Fits y) {k : ℕ} (whole : y * 10 ^ 9 = k) :
    ∃ j : ℕ, y * 512 = j := by
  obtain ⟨m, q, -, -, rfl⟩ := fits
  by_cases coarse : -9 ≤ q
  · obtain ⟨n, rfl⟩ := Int.le.dest coarse
    refine ⟨m * 2 ^ n, ?_⟩
    rw [two_zpow_add_nat]
    push_cast
    ring
  · obtain ⟨p, rfl⟩ : ∃ p : ℕ, q = -9 - p := ⟨(-9 - q).toNat, by omega⟩
    have power : (2 : ℚ) ^ (-9 - p : ℤ) * (512 * 2 ^ p) = 1 := by
      rw [zpow_sub₀ (by norm_num), zpow_natCast]
      field_simp
      norm_num
    generalize (2 : ℚ) ^ (-9 - p : ℤ) = v at power whole ⊢
    have odd : m * 5 ^ 9 = k * 2 ^ p := by
      have scaled : (m : ℚ) * 5 ^ 9 = k * 2 ^ p := by
        calc (m : ℚ) * 5 ^ 9 = m * 5 ^ 9 * (v * (512 * 2 ^ p)) := by rw [power, mul_one]
          _ = m * v * 10 ^ 9 * 2 ^ p := by ring
          _ = k * 2 ^ p := by rw [whole]
      exact_mod_cast scaled
    have coprime : Nat.Coprime (2 ^ p) (5 ^ 9) := Nat.Coprime.pow p 9 (by norm_num)
    obtain ⟨j, rfl⟩ := coprime.dvd_of_dvd_mul_right ⟨k, by rw [odd, Nat.mul_comm]⟩
    refine ⟨j, ?_⟩
    push_cast
    calc 2 ^ p * j * v * 512 = j * (v * (512 * 2 ^ p)) := by ring
      _ = j := by rw [power, mul_one]

/-- Nothing is lost where there is nothing to round. -/
theorem value_toFloat_of_nanos (near : NearestEven (y * 10 ^ 9) d.total) (fits : Fits y) {k : ℕ}
    (whole : y * 10 ^ 9 = k) : value d.toFloat = y := by
  by_cases large : 2 ^ 52 ≤ y
  · exact value_toFloat_of_large near fits large
  · have same : (d.seconds : ℚ) + d.nanos / 10 ^ 9 = y := by
      have count : d.total = k := near.unique (whole ▸ nearestEven_self k)
      have scaled : ((d.seconds : ℚ) + d.nanos / 10 ^ 9) * 10 ^ 9 = y * 10 ^ 9 := by
        rw [whole, ← count]
        unfold total nanosPerSecond
        push_cast
        ring
      exact mul_right_cancel₀ (by norm_num) scaled
    have fraction : (0 : ℚ) ≤ d.nanos / 10 ^ 9 := by positivity
    have small : d.seconds ≤ 2 ^ 53 := by
      have below : (d.seconds : ℚ) ≤ (2 ^ 53 : ℕ) := by
        push_cast
        linarith
      exact_mod_cast below
    obtain ⟨j, parts⟩ := exists_parts_of_nanos fits whole
    have nanos : Fits (d.nanos / 10 ^ 9) := by
      have above : d.seconds * 512 ≤ j := by
        have first : ((d.seconds * 512 : ℕ) : ℚ) ≤ j := by
          push_cast
          linarith
        exact_mod_cast first
      obtain ⟨i, rfl⟩ := Nat.le.dest above
      have rest : (d.nanos : ℚ) / 10 ^ 9 = i * 2 ^ (-9 : ℤ) := by
        push_cast at parts
        norm_num
        linarith
      have few : i ≤ 2 ^ 53 := by
        have share := d.nanos_div_le_one
        norm_num at rest
        have below : (i : ℚ) ≤ (2 ^ 53 : ℕ) := by
          push_cast
          linarith
        exact_mod_cast below
      exact rest ▸ fits_mul_two_zpow few (by norm_num)
    rw [value_toFloat_of_fits (fits_natCast small) nanos (same.symm ▸ fits), same]

/-- Less than a nanosecond is lost, and nothing of a number so large that doubles lie further apart
than nanoseconds do. -/
theorem value_toFloat (near : NearestEven (y * 10 ^ 9) d.total) (fits : Fits y) :
    |value d.toFloat - y| < 1 / 10 ^ 9 ∧ (2 ^ 23 ≤ y → value d.toFloat = y) := by
  by_cases large : 2 ^ 52 ≤ y
  · have same := value_toFloat_of_large near fits large
    rw [same]
    exact ⟨by norm_num, fun _ => rfl⟩
  obtain ⟨s, f, first, second, third⟩ := d.toFloat_nearest
  have fraction : (0 : ℚ) ≤ d.nanos / 10 ^ 9 := by positivity
  obtain ⟨low, high⟩ := abs_le.1 (near_parts near)
  have seconds : d.seconds ≤ 2 ^ 53 := by
    have below : (d.seconds : ℚ) ≤ (2 ^ 53 : ℕ) := by
      push_cast
      linarith
    exact_mod_cast below
  rw [first.eq_of_fits (fits_natCast seconds)] at third
  have error := second.error_le (k := -53) (by norm_num) fraction
    (by norm_num; exact d.nanos_div_le_one)
  obtain ⟨less, more⟩ := abs_le.1 error
  have close : |y - (d.seconds + f)| < 2 ^ (-29 : ℤ) / 2 := by
    norm_num at less more low high ⊢
    exact abs_lt.2 ⟨by linarith, by linarith⟩
  by_cases wide : (2 : ℚ) ^ (-29 + 52 : ℤ) ≤ d.seconds + f
  · have same := third.eq_of_near fits (by norm_num) wide close
    rw [same]
    exact ⟨by norm_num, fun _ => rfl⟩
  · have below : (d.seconds : ℚ) + f ≤ 2 ^ (-30 + 53 : ℤ) := (lt_of_not_ge wide).le
    have sum : 0 ≤ (d.seconds : ℚ) + f := add_nonneg (Nat.cast_nonneg _) second.fits.nonneg
    obtain ⟨under, beyond⟩ := abs_le.1 (third.error_le (k := -30) (by norm_num) sum below)
    refine ⟨?_, fun least => absurd ?_ wide⟩
    · norm_num at less more low high under beyond ⊢
      exact abs_lt.2 ⟨by linarith, by linarith⟩
    · have whole : 2 ^ 23 * 10 ^ 9 ≤ d.total := near.le (by push_cast; linarith)
      have nanos := d.nanos_lt
      have many : 2 ^ 23 ≤ d.seconds := by
        unfold total nanosPerSecond at whole
        unfold nanosPerSecond at nanos
        omega
      have bound : (8388608 : ℚ) ≤ d.seconds := by exact_mod_cast many
      norm_num
      linarith [second.fits.nonneg]

end Back

/-- The span is a number of seconds as far as nanoseconds tell. -/
structure Rounded (d : Span) (x : Float) : Prop where
  nearest : NearestEven (value x * 10 ^ 9) d.total
  close : |value d.toFloat - value x| < 1 / 10 ^ 9
  exact : 2 ^ 23 ≤ value x ∨ (∃ k : ℕ, value x * 10 ^ 9 = k) → value d.toFloat = value x

theorem rounded_of_ofFloat? {x : Float} {d : Span} (read : ofFloat? x = some d) : d.Rounded x := by
  obtain ⟨finite, nonneg, near⟩ := (ofFloat?_eq_some_iff x d).1 read
  have fits := fits_value finite nonneg
  obtain ⟨close, large⟩ := value_toFloat near fits
  refine ⟨near, close, ?_⟩
  rintro (least | ⟨k, whole⟩)
  · exact large least
  · exact value_toFloat_of_nanos near fits whole

end ShaderFilm.Time.Span
