import ShaderFilm.Number.Rounding

/-!
# Binary floating-point formats

The two interchange formats with 64 and 32 bits.  A positive number is `m * 2 ^ q` with a bounded
whole number `m`; `Format.split` reads `m` and `q` off the bits, and `Format.ofRatio` finds the bits
of the number nearest to a ratio.
-/

namespace ShaderFilm.Number

/-- A binary interchange format, given by the widths of its fraction and exponent fields. -/
structure Format where
  fractionBits : Nat
  exponentBits : Nat

namespace Format

def double : Format := ⟨52, 11⟩

def single : Format := ⟨23, 8⟩

/-- The exponent of the smallest positive number. -/
def lowest (f : Format) : Int := 2 - Nat.pow 2 (f.exponentBits - 1) - f.fractionBits

/-- The bits of positive infinity. -/
def infinity (f : Format) : Nat := (Nat.pow 2 f.exponentBits - 1) * Nat.pow 2 f.fractionBits

/-- The `m` and `q` of the number `m * 2 ^ q` that has the given bits, its sign left aside. -/
def split (f : Format) (bits : Nat) : Nat × Int :=
  let field := bits / Nat.pow 2 f.fractionBits % Nat.pow 2 f.exponentBits
  let fraction := bits % Nat.pow 2 f.fractionBits
  if field = 0 then (fraction, f.lowest)
  else (Nat.pow 2 f.fractionBits + fraction, (field : Int) - 1 + f.lowest)

/-- The exponent of the largest power of two that is at most `num / den`, for positive numbers. -/
def floorLog2 (num den : Nat) : Int :=
  let guess : Int := (num.log2 : Int) - den.log2
  let below :=
    if 0 ≤ guess then den * Nat.pow 2 guess.toNat ≤ num
    else den ≤ num * Nat.pow 2 (-guess).toNat
  if below then guess else guess - 1

/-- The bits of the number nearest to `num / den`, halves to the even neighbour, and of infinity
beyond the largest number. -/
def ofRatio (f : Format) (num den : Nat) : Nat :=
  if num = 0 then 0
  else
    let q := max (floorLog2 num den - f.fractionBits) f.lowest
    let m :=
      if 0 ≤ q then roundQuotient num (den * Nat.pow 2 q.toNat)
      else roundQuotient (num * Nat.pow 2 (-q).toNat) den
    let bits :=
      if m < Nat.pow 2 f.fractionBits then m
      else (q - f.lowest + 1).toNat * Nat.pow 2 f.fractionBits + (m - Nat.pow 2 f.fractionBits)
    min bits f.infinity

end Format

end ShaderFilm.Number
