import ShaderFilm.Number.Binary

/-!
# Shortest decimal digits

Of all decimal numbers that round to a given floating-point number, `shortest` picks one with the
fewest digits, and among those the nearest.  A decimal number is tried on the grid of one digit,
then of two, and so on; on each grid only the two neighbours of the number matter.
-/

namespace ShaderFilm.Number

/-- Digits with a decimal point in front of digit number `point`; the value is
`0.d₁d₂… * 10 ^ point`. -/
structure Digits where
  digits : List Char
  point : Int
  deriving DecidableEq, Repr

/-- A positive ratio. -/
structure Ratio where
  num : Nat
  den : Nat

namespace Ratio

/-- The number `m * 2 ^ q` over four. -/
def ofQuarters (m : Nat) (q : Int) : Ratio :=
  if 0 ≤ q then ⟨m * Nat.pow 2 q.toNat, 4⟩ else ⟨m, 4 * Nat.pow 2 (-q).toNat⟩

/-- The number `c * 10 ^ k`. -/
def ofDecimal (c : Nat) (k : Int) : Ratio :=
  if 0 ≤ k then ⟨c * Nat.pow 10 k.toNat, 1⟩ else ⟨c, Nat.pow 10 (-k).toNat⟩

def le (x y : Ratio) : Bool := x.num * y.den ≤ y.num * x.den

def lt (x y : Ratio) : Bool := x.num * y.den < y.num * x.den

/-- The largest `c` with `c * 10 ^ k ≤ x`. -/
def floorAt (x : Ratio) (k : Int) : Nat :=
  if 0 ≤ k then x.num / (x.den * Nat.pow 10 k.toNat) else x.num * Nat.pow 10 (-k).toNat / x.den

/-- The `p` with `10 ^ (p - 1) ≤ x < 10 ^ p`. -/
def decimalPoint (x : Ratio) : Int :=
  let guess : Int :=
    if x.den ≤ x.num then (Nat.toDigits 10 (x.num / x.den)).length
    else 1 - ((Nat.toDigits 10 (x.den / x.num)).length : Int)
  if x.lt (ofDecimal 1 (guess - 1)) then guess - 1
  else if x.lt (ofDecimal 1 guess) then guess
  else guess + 1

end Ratio

/-- The numbers that round to `m * 2 ^ q`, from the least to the greatest, and whether the ends
belong to them. -/
def roundingInterval (f : Format) (m : Nat) (q : Int) : Ratio × Ratio × Bool :=
  let narrow := m = Nat.pow 2 f.fractionBits ∧ f.lowest < q
  (Ratio.ofQuarters (if narrow then 4 * m - 1 else 4 * m - 2) q, Ratio.ofQuarters (4 * m + 2) q,
    m % 2 = 0)

/-- The nearest number to `m * 2 ^ q` on the grid of `10 ^ k` that rounds to it, if there is one. -/
def onGrid? (f : Format) (m : Nat) (q k : Int) : Option Nat :=
  let (low, high, closed) := roundingInterval f m q
  let x := Ratio.ofQuarters (4 * m) q
  let inside (c : Nat) : Bool :=
    let y := Ratio.ofDecimal c k
    if closed then low.le y && y.le high else low.lt y && y.lt high
  let c := x.floorAt k
  match inside c, inside (c + 1) with
  | true, true =>
    -- The middle between the two neighbours decides.
    let middle := Ratio.ofDecimal ((2 * c + 1) * 5) (k - 1)
    if x.lt middle || (c % 2 == 0 && x.le middle) then some c else some (c + 1)
  | true, false => some c
  | false, true => some (c + 1)
  | false, false => none

/-- The shortest digits, tried with `n` digits and up to `fuel` more. -/
def shortestFrom (f : Format) (m : Nat) (q point : Int) : (n fuel : Nat) → Digits
  | n, 0 => ⟨Nat.toDigits 10 ((Ratio.ofQuarters (4 * m) q).floorAt (point - n)), point⟩
  | n, fuel + 1 =>
    match onGrid? f m q (point - n) with
    | some c =>
      let digits := Nat.toDigits 10 c
      -- Rounding up may have reached the next power of ten.
      ⟨digits, point + ((digits.length : Int) - n)⟩
    | none => shortestFrom f m q point (n + 1) fuel

/-- The shortest digits of the positive number `m * 2 ^ q`. -/
def shortest (f : Format) (m : Nat) (q : Int) : Digits :=
  let d := shortestFrom f m q (Ratio.ofQuarters (4 * m) q).decimalPoint 1 17
  { d with digits := (d.digits.reverse.dropWhile (· == '0')).reverse }

end ShaderFilm.Number
