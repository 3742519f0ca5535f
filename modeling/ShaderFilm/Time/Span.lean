import ShaderFilm.Number.Binary

/-!
# Spans of time

A span is a whole number of seconds in a 64-bit word and a number of nanoseconds below one second.
-/

namespace ShaderFilm.Time

/-- Nanoseconds in a second. -/
def nanosPerSecond : Nat := 1000000000

/-- The numbers that a 64-bit word holds lie below this one. -/
def wordLimit : Nat := UInt64.size

/-- A length of time. -/
structure Span where
  seconds : Nat
  nanos : Nat
  seconds_lt : seconds < wordLimit
  nanos_lt : nanos < nanosPerSecond
  deriving DecidableEq

namespace Span

/-- A span of seconds and nanoseconds, full seconds of nanoseconds carried; none if the seconds do
not fit. -/
def ofParts? (seconds nanos : Nat) : Option Span :=
  if h : seconds + nanos / nanosPerSecond < wordLimit then
    some ⟨seconds + nanos / nanosPerSecond, nanos % nanosPerSecond, h,
      Nat.mod_lt _ (by decide)⟩
  else none

def zero : Span := ⟨0, 0, by decide, by decide⟩

/-- The span of a number of seconds, rounded to the nearest nanosecond with halves to the even one;
none for negative, infinite and undefined numbers, and for those that do not fit. -/
def ofFloat? (x : Float) : Option Span :=
  if x < 0.0 || !x.isFinite then none
  else
    let (m, q) := Number.Format.double.split (x.toBits.toNat % 0x8000000000000000)
    let total :=
      if 0 ≤ q then m * Nat.pow 2 q.toNat * nanosPerSecond
      else Number.roundQuotient (m * nanosPerSecond) (Nat.pow 2 (-q).toNat)
    ofParts? 0 total

/-- The span in seconds: the seconds and the nanoseconds are converted apart and then added. -/
def toFloat (d : Span) : Float :=
  (UInt64.ofNat d.seconds).toFloat + (UInt64.ofNat d.nanos).toFloat / 1000000000.0

theorem ofParts?_of_lt {s n : Nat} (hs : s < wordLimit) (hn : n < nanosPerSecond) :
    ofParts? s n = some ⟨s, n, hs, hn⟩ := by
  have h0 : n / nanosPerSecond = 0 := Nat.div_eq_of_lt hn
  have h1 : n % nanosPerSecond = n := Nat.mod_eq_of_lt hn
  simp [ofParts?, h0, h1, hs]

end Span

end ShaderFilm.Time
