import ShaderFilm.Text.Blank
import ShaderFilm.Time.Span

/-!
# Written spans

A span is written as numbers with units, such as `1h 30m` or `1.5s`.  The reader goes through the
text character by character; what it knows between two characters is its `Phase`.
-/

namespace ShaderFilm.Time

open ShaderFilm.Text

/-- Units of time. -/
inductive TimeUnit where
  | nanosecond
  | microsecond
  | millisecond
  | second
  | minute
  | hour
  | day
  | week
  | month
  | year
  deriving DecidableEq, Repr

namespace TimeUnit

/-- The unit that a word names. -/
def ofWord? (word : String) : Option TimeUnit :=
  if ["nanos", "nsec", "ns"].contains word then some nanosecond
  else if ["usec", "us", "µs"].contains word then some microsecond
  else if ["millis", "msec", "ms"].contains word then some millisecond
  else if ["seconds", "second", "secs", "sec", "s"].contains word then some second
  else if ["minutes", "minute", "min", "mins", "m"].contains word then some minute
  else if ["hours", "hour", "hr", "hrs", "h"].contains word then some hour
  else if ["days", "day", "d"].contains word then some day
  else if ["weeks", "week", "wk", "wks", "w"].contains word then some week
  else if ["months", "month", "M"].contains word then some month
  else if ["years", "year", "yr", "yrs", "y"].contains word then some year
  else none

/-- The length of units below a second, in nanoseconds. -/
def nanos? : TimeUnit → Option Nat
  | nanosecond => some 1
  | microsecond => some 1000
  | millisecond => some 1000000
  | _ => none

/-- The length of a unit in seconds, zero for those below a second. -/
def seconds : TimeUnit → Nat
  | second => 1
  | minute => 60
  | hour => 3600
  | day => 86400
  | week => 604800
  | month => 2630016
  | year => 31557600
  | _ => 0

end TimeUnit

/-- Why a text is no span. -/
inductive SpanFault where
  | empty
  | invalidCharacter (offset : Nat)
  | numberExpected (offset : Nat)
  | unitNeeded (number : Nat)
  | unknownUnit (unit : String)
  /-- A number, a sum or a fraction that cannot be represented. -/
  | notRepresentable
  /-- A full second of nanoseconds is carried into seconds that are full already.  The sum has no
  value and is not refused either: whoever asks for it stops. -/
  | carryOverflow
  deriving DecidableEq, Repr

namespace SpanFault

def message : SpanFault → String
  | empty => "value was empty"
  | invalidCharacter offset => "invalid character at " ++ toString offset
  | numberExpected offset => "expected number at " ++ toString offset
  | unitNeeded n =>
    "time unit needed, for example " ++ toString n ++ "sec or " ++ toString n ++ "ms"
  | unknownUnit unit =>
    "unknown time unit \"" ++ unit ++ "\", supported units: ns, us/µs, ms, sec, min, hours, " ++
      "days, weeks, months, years (and few variations)"
  | notRepresentable =>
    "number is too large or cannot be represented without a lack of precision " ++
      "(values below 1ns are not supported)"
  | carryOverflow => "overflow in the sum of spans"

end SpanFault

/-- A number that fits a 64-bit word. -/
def fit (n : Nat) : Except SpanFault Nat :=
  if n < wordLimit then .ok n else .error .notRepresentable

/-- A span with seconds and nanoseconds added.  The nanoseconds are carried when they make more than
one second; exactly one second is carried by the span itself. -/
def addParts (d : Span) (seconds nanos : Nat) : Except SpanFault Span := do
  let sum ← fit (d.nanos + nanos)
  let (carried, rest) :=
    if nanosPerSecond < sum then (sum / nanosPerSecond, sum % nanosPerSecond) else (0, sum)
  let seconds ← fit (seconds + carried)
  let seconds ← fit (d.seconds + seconds)
  match Span.ofParts? seconds rest with
  | some sum => return sum
  | none => throw .carryOverflow

/-- A fraction as its digits make it. -/
structure Fraction where
  numerator : Nat
  denominator : Nat
  deriving DecidableEq, Repr

/-- A fraction of a length, which has to be whole. -/
def Fraction.of (f : Fraction) (length : Nat) : Except SpanFault Nat := do
  let product ← fit (f.numerator * length)
  if product % f.denominator ≠ 0 then throw .notRepresentable
  return product / f.denominator

/-- A span with a number of units added. -/
def addUnits (d : Span) (n : Nat) (fraction : Option Fraction) (word : List Char) :
    Except SpanFault Span := do
  if word.isEmpty then throw (.unitNeeded n)
  match TimeUnit.ofWord? (String.ofList word) with
  | none => throw (.unknownUnit (String.ofList word))
  | some unit =>
    let d ← match unit.nanos? with
      | some length => addParts d 0 (← fit (n * length))
      | none => addParts d (← fit (n * unit.seconds)) 0
    match fraction with
    | none => return d
    | some f =>
      match unit with
      | .nanosecond => throw .notRepresentable
      | .microsecond => addParts d 0 (← f.of 1000)
      | .millisecond => addParts d 0 (← f.of 1000000)
      | .second => addParts d 0 (← f.of nanosPerSecond)
      | .minute => addParts d 0 (← f.of (60 * nanosPerSecond))
      | _ => addParts d (← f.of unit.seconds) 0

/-- What is known between two characters. -/
inductive Phase where
  /-- A number is expected; `start` is where it was first looked for. -/
  | gap (start : Nat)
  /-- Behind digits of a whole number. -/
  | whole (n : Nat)
  /-- Behind a decimal point; `offset` is where the next wrong character is reported. -/
  | fraction (n : Nat) (f : Fraction) (offset : Nat)
  /-- Inside the word of a unit, whose letters are in reverse. -/
  | unit (n : Nat) (f : Option Fraction) (letters : List Char)
  deriving DecidableEq, Repr

/-- Letters of unit words. -/
def isUnitLetter (c : Char) : Bool := c.isAlpha || c == 'µ'

/-- Takes the character at `offset`. -/
def Phase.step (phase : Phase) (d : Span) (offset : Nat) (c : Char) :
    Except SpanFault (Phase × Span) := do
  let digit := c.toNat - '0'.toNat
  match phase with
  | .gap start =>
    if c.isDigit then return (.whole digit, d)
    else if isBlank c then return (.gap start, d)
    else throw (.numberExpected start)
  | .whole n =>
    if c.isDigit then return (.whole (← fit (n * 10 + digit)), d)
    else if isBlank c then return (.whole n, d)
    else if isUnitLetter c then return (.unit n none [c], d)
    else if c = '.' then return (.fraction n ⟨0, 1⟩ offset, d)
    else throw (.invalidCharacter offset)
  | .fraction n f reported =>
    let next := offset + c.utf8Size
    if c.isDigit then
      let denominator ← fit (f.denominator * 10)
      return (.fraction n ⟨← fit (f.numerator * 10 + digit), denominator⟩ next, d)
    else if isBlank c then return (.fraction n f next, d)
    else if isUnitLetter c then
      if f.denominator = 1 then throw (.invalidCharacter reported)
      return (.unit n (some f) [c], d)
    else throw (.invalidCharacter reported)
  | .unit n f letters =>
    if c.isDigit then return (.whole digit, ← addUnits d n f letters.reverse)
    else if isBlank c then return (.gap (offset + c.utf8Size), ← addUnits d n f letters.reverse)
    else if isUnitLetter c then return (.unit n f (c :: letters), d)
    else throw (.invalidCharacter offset)

/-- The span that a text has written when it ends. -/
def Phase.finish (phase : Phase) (d : Span) (begun : Bool) : Except SpanFault Span :=
  match phase with
  | .gap _ => if begun then .ok d else .error .empty
  | .whole n => addUnits d n none []
  | .fraction n f reported =>
    if f.denominator = 1 then .error (.invalidCharacter reported) else addUnits d n (some f) []
  | .unit n f letters => addUnits d n f letters.reverse

/-- Reads on from a phase. -/
def Span.readFrom (phase : Phase) (d : Span) (begun : Bool) (offset : Nat) :
    List Char → Except SpanFault Span
  | [] => phase.finish d begun
  | c :: rest => do
    let (phase, d) ← phase.step d offset c
    readFrom phase d (begun || c.isDigit) (offset + c.utf8Size) rest

/-- The span that a text writes. -/
def Span.ofText (s : List Char) : Except SpanFault Span := readFrom (.gap 0) .zero false 0 s

end ShaderFilm.Time
