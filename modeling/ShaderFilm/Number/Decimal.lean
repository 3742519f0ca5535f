import ShaderFilm.Number.Binary

/-!
# Decimal number texts

A number text is a sign, digits with a point among them, and an exponent; `inf`, `infinity` and
`nan` in any case stand for themselves.  `readNumber?` answers with the floating-point number
nearest to what is written.
-/

namespace ShaderFilm.Number

/-- The number `digits * 10 ^ exponent`. -/
structure Decimal where
  digits : Nat
  exponent : Int
  deriving DecidableEq, Repr

namespace Decimal

/-- How many digits a number is written with. -/
def width (n : Nat) : Nat := (Nat.toDigits 10 n).length

/-- The bits of the double nearest to a decimal number.  Far outside the range of doubles the
number is not worked out. -/
def toBits (d : Decimal) : Nat :=
  let top := d.exponent + width d.digits
  if d.digits = 0 ∨ top < -400 then 0
  else if 400 < top then Format.double.infinity
  else if 0 ≤ d.exponent then Format.double.ofRatio (d.digits * Nat.pow 10 d.exponent.toNat) 1
  else Format.double.ofRatio d.digits (Nat.pow 10 (-d.exponent).toNat)

def toFloat (d : Decimal) : Float := Float.ofBits (UInt64.ofNat d.toBits)

end Decimal

/-- The value of decimal digits. -/
def natOfDigits (digits : List Char) : Nat :=
  digits.foldl (fun n c => n * 10 + (c.toNat - '0'.toNat)) 0

/-- A sign in front of a text: whether it is a minus, and the rest. -/
def cutSign : List Char → Bool × List Char
  | '-' :: rest => (true, rest)
  | '+' :: rest => (false, rest)
  | s => (false, s)

/-- The exponent that a text consists of: zero for an empty text, none if it is malformed. -/
def readExponent? : List Char → Option Int
  | [] => some 0
  | e :: rest =>
    if e = 'e' ∨ e = 'E' then
      let (negative, digits) := cutSign rest
      if digits.isEmpty ∨ !digits.all Char.isDigit then none
      else some (if negative then -(natOfDigits digits : Int) else natOfDigits digits)
    else none

/-- The decimal number that an unsigned text writes: digits with a point before, among or behind
them, one digit at least, and an exponent. -/
def readDecimal? (s : List Char) : Option Decimal := do
  let whole := s.takeWhile Char.isDigit
  let rest := s.dropWhile Char.isDigit
  let (fraction, rest) := match rest with
    | '.' :: rest => (rest.takeWhile Char.isDigit, rest.dropWhile Char.isDigit)
    | _ => ([], rest)
  if whole.isEmpty ∧ fraction.isEmpty then none
  let exponent ← readExponent? rest
  some ⟨natOfDigits (whole ++ fraction), exponent - fraction.length⟩

/-- Not a number. -/
def nan : Float := Float.ofBits 0x7FF8000000000000

/-- The infinities. -/
def infinity (negative : Bool) : Float :=
  Float.ofBits (if negative then 0xFFF0000000000000 else 0x7FF0000000000000)

def withSign (negative : Bool) (x : Float) : Float := if negative then -x else x

/-- The floating-point number that a text writes. -/
def readNumber? (s : List Char) : Option Float :=
  let (negative, rest) := cutSign s
  let word := rest.map Char.toLower
  if word = "inf".toList ∨ word = "infinity".toList then some (infinity negative)
  else if word = "nan".toList then some nan
  else (readDecimal? rest).map fun d => withSign negative d.toFloat

end ShaderFilm.Number
