import ShaderFilm.Number.Decimal
import ShaderFilm.Number.Shortest

/-!
# How numbers are written

Every float is written with its shortest digits.  A `Style` says when the digits are positional and
when an exponent follows, and whether a whole number keeps a fraction; the program uses three of
them.
-/

namespace ShaderFilm.Number

/-- A way to write finite floats. -/
structure Style where
  /-- Digits are positional where the decimal point comes behind this place, none at all for
  always. -/
  above : Option Int
  /-- Digits are positional where the decimal point does not come behind this place. -/
  upTo : Option Int
  /-- Whether a positional whole number gets `.0`. -/
  keepsFraction : Bool

namespace Style

/-- Positional always, whole numbers without a fraction. -/
def plain : Style := ⟨none, none, false⟩

/-- Positional always, whole numbers with a fraction. -/
def fractional : Style := ⟨none, none, true⟩

/-- Positional from 1e-4 up to below 1e16, with a fraction. -/
def scientific : Style := ⟨some (-4), some 16, true⟩

/-- Positional from 1e-5 up to below 1e16, with a fraction. -/
def compact : Style := ⟨some (-5), some 16, true⟩

end Style

/-- Digits in their places. -/
def Digits.positional (d : Digits) (keepsFraction : Bool) : List Char :=
  let n : Int := d.digits.length
  if d.point ≤ 0 then "0.".toList ++ List.replicate (-d.point).toNat '0' ++ d.digits
  else if n ≤ d.point then
    d.digits ++ List.replicate (d.point - n).toNat '0' ++
      (if keepsFraction then ".0".toList else [])
  else d.digits.take d.point.toNat ++ '.' :: d.digits.drop d.point.toNat

/-- Digits with one in front of the point, and an exponent. -/
def Digits.withExponent (d : Digits) : List Char :=
  let mantissa := match d.digits with
    | [] => []
    | [c] => [c]
    | c :: rest => c :: '.' :: rest
  mantissa ++ 'e' :: (toString (d.point - 1)).toList

/-- Digits as a style has them. -/
def Digits.written (d : Digits) (style : Style) : List Char :=
  if style.above.all (· < d.point) && style.upTo.all (d.point ≤ ·) then
    d.positional style.keepsFraction
  else d.withExponent

/-- Writes the number with the given bits in a format. -/
def writeBits (f : Format) (style : Style) (bits : Nat) : String :=
  let negative := bits / Nat.pow 2 (f.fractionBits + f.exponentBits) % 2 = 1
  let magnitude := bits % Nat.pow 2 (f.fractionBits + f.exponentBits)
  let sign := if negative then ['-'] else []
  if f.infinity < magnitude then "NaN"
  else if magnitude = f.infinity then String.ofList (sign ++ "inf".toList)
  else if magnitude = 0 then
    String.ofList (sign ++ (if style.keepsFraction then "0.0".toList else ['0']))
  else
    let (m, q) := f.split magnitude
    String.ofList (sign ++ (shortest f m q).written style)

/-- Writes a double. -/
def write (style : Style) (x : Float) : String := writeBits .double style x.toBits.toNat

/-- Writes a single. -/
def write32 (style : Style) (x : Float32) : String := writeBits .single style x.toBits.toNat

/-- A number of tenths with its fraction. -/
def tenths (n : Nat) : String := toString (n / 10) ++ "." ++ toString (n % 10)

/-- A nonnegative finite double to one place, the exact value rounded with halves to the even
neighbour. -/
def writeTenths (x : Float) : String :=
  let (m, q) := Format.double.split (x.toBits.toNat % 0x8000000000000000)
  if 0 ≤ q then tenths (m * Nat.pow 2 q.toNat * 10)
  else tenths (roundQuotient (m * 10) (Nat.pow 2 (-q).toNat))

end ShaderFilm.Number
