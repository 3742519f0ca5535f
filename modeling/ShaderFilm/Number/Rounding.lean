/-!
# Rounding of quotients

A quotient of natural numbers is rounded to the nearest whole number, a half to the even neighbour.
-/

namespace ShaderFilm.Number

/-- The whole number nearest to `num / den`; of two that are equally near, the even one. -/
def roundQuotient (num den : Nat) : Nat :=
  let low := num / den
  let rest := num % den
  if 2 * rest < den then low
  else if den < 2 * rest then low + 1
  else low + low % 2

theorem roundQuotient_of_dvd {num den : Nat} (h : den ∣ num) (hpos : 0 < den) :
    roundQuotient num den = num / den := by
  simp [roundQuotient, Nat.mod_eq_zero_of_dvd h, hpos]

theorem le_roundQuotient (num den : Nat) : num / den ≤ roundQuotient num den := by
  unfold roundQuotient
  dsimp only
  split
  · omega
  · split <;> omega

theorem roundQuotient_le (num den : Nat) : roundQuotient num den ≤ num / den + 1 := by
  unfold roundQuotient
  dsimp only
  split
  · omega
  · split <;> omega

end ShaderFilm.Number
