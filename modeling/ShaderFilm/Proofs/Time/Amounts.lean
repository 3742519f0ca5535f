import ShaderFilm.Time.SpanText

/-!
# Written spans as sums

A text writes amounts of time one after the other.  Reading it is adding them up from left to right,
until the sum does not fit or the text is at fault (`ofText_eq_sum`), so the words of a text and its
sum can be looked at apart.  Sums that do not fit are refused, but for one, and a text that comes to
it (`Amounts.Overfill`) is neither read nor refused (`ofText_eq_carryOverflow_iff`).
-/

namespace ShaderFilm.Time

open ShaderFilm.Text

/-- Seconds and nanoseconds that are added at once. -/
structure Amount where
  seconds : Nat
  nanos : Nat
  deriving DecidableEq, Repr

/-- A span with an amount added. -/
def Span.plus (d : Span) (a : Amount) : Except SpanFault Span := addParts d a.seconds a.nanos

/-! ### One amount -/

/-- The sum is as many seconds as fit, and one more in nanoseconds. -/
def Span.Spills (d : Span) (a : Amount) : Prop :=
  d.seconds + a.seconds + 1 = wordLimit ∧ d.nanos + a.nanos = nanosPerSecond

theorem fit_bind {α : Type} (n : Nat) (f : Nat → Except SpanFault α) :
    n < wordLimit ∧ fit n >>= f = f n ∨
      wordLimit ≤ n ∧ fit n >>= f = .error .notRepresentable := by
  unfold fit
  by_cases small : n < wordLimit
  · rw [if_pos small]
    exact .inl ⟨small, rfl⟩
  · rw [if_neg small]
    exact .inr ⟨Nat.le_of_not_lt small, rfl⟩

theorem ofParts?_nanosPerSecond {s : Nat} (small : s < wordLimit) :
    Span.ofParts? s nanosPerSecond = none ∧ s + 1 = wordLimit ∨
      (∃ e, Span.ofParts? s nanosPerSecond = some e) ∧ s + 1 ≠ wordLimit := by
  have one : nanosPerSecond / nanosPerSecond = 1 := by decide
  unfold Span.ofParts?
  rw [one]
  split
  · exact .inr ⟨⟨_, rfl⟩, by omega⟩
  · exact .inl ⟨rfl, by omega⟩

namespace Span

/-- A span with seconds added, and nanoseconds in place of its own. -/
def raise (d : Span) (seconds nanos : Nat) : Except SpanFault Span :=
  fit (d.seconds + seconds) >>= fun s => (ofParts? s nanos).elim (.error .carryOverflow) .ok

theorem raise_below (d : Span) (s : Nat) {n : Nat} (below : n < nanosPerSecond) :
    (∃ e, d.raise s n = .ok e) ∨ d.raise s n = .error .notRepresentable := by
  unfold raise
  obtain ⟨small, fits⟩ | ⟨-, wide⟩ := fit_bind (d.seconds + s) fun s =>
    (ofParts? s n).elim (.error .carryOverflow) .ok
  · rw [fits, ofParts?_of_lt small below]
    exact .inl ⟨_, rfl⟩
  · exact .inr wide

theorem raise_full (d : Span) (s : Nat) :
    (∃ e, d.raise s nanosPerSecond = .ok e) ∧ d.seconds + s + 1 ≠ wordLimit ∨
      d.raise s nanosPerSecond = .error .notRepresentable ∧ d.seconds + s + 1 ≠ wordLimit ∨
      d.raise s nanosPerSecond = .error .carryOverflow ∧ d.seconds + s + 1 = wordLimit := by
  unfold raise
  obtain ⟨small, fits⟩ | ⟨wide, refused⟩ := fit_bind (d.seconds + s) fun s =>
    (ofParts? s nanosPerSecond).elim (.error .carryOverflow) .ok
  · rw [fits]
    obtain ⟨none, last⟩ | ⟨⟨e, some⟩, other⟩ := ofParts?_nanosPerSecond small
    · rw [none]
      exact .inr (.inr ⟨rfl, last⟩)
    · rw [some]
      exact .inl ⟨⟨e, rfl⟩, other⟩
  · exact .inr (.inl ⟨refused, by omega⟩)

/-- More than a second of nanoseconds is carried ahead of the sum, a second exactly is not. -/
theorem plus_eq (d : Span) (a : Amount) :
    d.plus a = fit (d.nanos + a.nanos) >>= fun sum =>
      if nanosPerSecond < sum then
        fit (a.seconds + sum / nanosPerSecond) >>= fun s => d.raise s (sum % nanosPerSecond)
      else fit a.seconds >>= fun s => d.raise s sum := by
  unfold plus addParts
  congr 1
  funext sum
  dsimp only
  split <;> congr 1 <;> funext s <;> unfold raise <;> congr 1 <;> funext s
  · cases ofParts? s (sum % nanosPerSecond) <;> rfl
  · cases ofParts? s sum <;> rfl

/-- A sum that has no value is refused, with one exception. -/
theorem plus_cases (d : Span) (a : Amount) :
    (∃ e, d.plus a = .ok e) ∧ ¬ d.Spills a ∨ d.plus a = .error .notRepresentable ∧ ¬ d.Spills a ∨
      d.plus a = .error .carryOverflow ∧ d.Spills a := by
  have limit : nanosPerSecond < wordLimit := by decide
  have refusable {r : Except SpanFault Span} (none : ¬ d.Spills a)
      (settled : (∃ e, r = .ok e) ∨ r = .error .notRepresentable) :
      (∃ e, r = .ok e) ∧ ¬ d.Spills a ∨ r = .error .notRepresentable ∧ ¬ d.Spills a ∨
        r = .error .carryOverflow ∧ d.Spills a :=
    settled.elim (fun ok => .inl ⟨ok, none⟩) fun refused => .inr (.inl ⟨refused, none⟩)
  rw [plus_eq]
  obtain ⟨-, fits⟩ | ⟨wide, refused⟩ := fit_bind (d.nanos + a.nanos) fun sum =>
    if nanosPerSecond < sum then
      fit (a.seconds + sum / nanosPerSecond) >>= fun s => d.raise s (sum % nanosPerSecond)
    else fit a.seconds >>= fun s => d.raise s sum
  · rw [fits]
    split
    · next carried =>
      refine refusable (fun spills => by have := spills.2; omega) ?_
      obtain ⟨-, fits⟩ | ⟨-, refused⟩ :=
        fit_bind (a.seconds + (d.nanos + a.nanos) / nanosPerSecond) fun s =>
          d.raise s ((d.nanos + a.nanos) % nanosPerSecond)
      · rw [fits]
        exact d.raise_below _ (Nat.mod_lt _ (by decide))
      · exact .inr refused
    · next rest =>
      obtain ⟨-, fits⟩ | ⟨wide, refused⟩ := fit_bind a.seconds fun s =>
        d.raise s (d.nanos + a.nanos)
      · rw [fits]
        by_cases full : d.nanos + a.nanos = nanosPerSecond
        · unfold Spills
          rw [full]
          simpa using d.raise_full a.seconds
        · exact refusable (fun spills => full spills.2) (d.raise_below _ (by omega))
      · exact refusable (fun spills => by have := spills.1; omega) (.inr refused)
  · exact refusable (fun spills => by have := spills.2; omega) (.inr refused)

end Span

/-! ### Many amounts -/

/-- Amounts one after the other, and behind them the end or a fault. -/
inductive Amounts where
  | done
  | fault (f : SpanFault)
  | add (a : Amount) (rest : Amounts)
  deriving DecidableEq, Repr

namespace Amounts

/-- The amounts added up from a span on. -/
def sum : Amounts → Span → Except SpanFault Span
  | done, d => .ok d
  | fault f, _ => .error f
  | add a rest, d => d.plus a >>= rest.sum

/-- Amounts with others behind them, unless there is a fault before. -/
def append : Amounts → Amounts → Amounts
  | done, y => y
  | fault f, _ => fault f
  | add a rest, y => add a (rest.append y)

/-- Amounts that may not be known. -/
def ofExcept : Except SpanFault Amounts → Amounts
  | .ok x => x
  | .error f => fault f

theorem sum_append (x y : Amounts) (d : Span) : (x.append y).sum d = x.sum d >>= y.sum := by
  induction x generalizing d with
  | done => rfl
  | fault f => rfl
  | add a rest ih =>
    unfold append sum
    cases d.plus a with
    | error f => rfl
    | ok e => exact ih e

theorem sum_ofExcept (x : Except SpanFault Amounts) (d : Span) :
    (ofExcept x).sum d = x >>= fun x => x.sum d := by
  cases x <;> rfl

theorem append_done (x : Amounts) : x.append done = x := by
  induction x with
  | done => rfl
  | fault f => rfl
  | add a rest ih => rw [append, ih]

end Amounts

/-! ### Numbers of units -/

/-- So many units. -/
def TimeUnit.whole (unit : TimeUnit) (n : Nat) : Except SpanFault Amount :=
  match unit.nanos? with
  | some length => do return ⟨0, ← fit (n * length)⟩
  | none => do return ⟨← fit (n * unit.seconds), 0⟩

/-- A fraction of a unit. -/
def TimeUnit.part (unit : TimeUnit) (f : Fraction) : Except SpanFault Amount :=
  match unit with
  | .nanosecond => throw .notRepresentable
  | .microsecond => do return ⟨0, ← f.of 1000⟩
  | .millisecond => do return ⟨0, ← f.of 1000000⟩
  | .second => do return ⟨0, ← f.of nanosPerSecond⟩
  | .minute => do return ⟨0, ← f.of (60 * nanosPerSecond)⟩
  | unit => do return ⟨← f.of unit.seconds, 0⟩

open Amounts in
/-- What a number of units adds: the whole ones, then the fraction of one. -/
def TimeUnit.amounts (unit : TimeUnit) (n : Nat) (fraction : Option Fraction) : Amounts :=
  ofExcept ((unit.whole n).map fun a => add a (match fraction with
    | none => done
    | some f => ofExcept ((unit.part f).map fun b => add b done)))

/-- What a number with a word behind it adds. -/
def unitAmounts (n : Nat) (fraction : Option Fraction) (word : List Char) : Amounts :=
  if word.isEmpty then .fault (.unitNeeded n)
  else
    match TimeUnit.ofWord? (String.ofList word) with
    | none => .fault (.unknownUnit (String.ofList word))
    | some unit => unit.amounts n fraction

theorem TimeUnit.sum_amounts (unit : TimeUnit) (n : Nat) (fraction : Option Fraction) (d : Span) :
    (unit.amounts n fraction).sum d = (unit.whole n >>= d.plus) >>= fun e =>
      match fraction with
      | none => pure e
      | some f => unit.part f >>= e.plus := by
  unfold amounts
  cases unit.whole n with
  | error f => rfl
  | ok a =>
    show (d.plus a >>= _) = (d.plus a >>= _)
    congr 1
    funext e
    cases fraction with
    | none => rfl
    | some f =>
      dsimp only
      rw [Amounts.sum_ofExcept]
      cases unit.part f with
      | error f => rfl
      | ok b =>
        show (e.plus b >>= pure) = e.plus b
        exact bind_pure _

theorem addUnits_eq_sum (d : Span) (n : Nat) (fraction : Option Fraction) (word : List Char) :
    addUnits d n fraction word = (unitAmounts n fraction word).sum d := by
  unfold addUnits unitAmounts
  by_cases empty : word.isEmpty = true
  · simp only [empty, if_true]
    rfl
  · rw [if_neg empty, if_neg empty]
    dsimp only
    cases TimeUnit.ofWord? (String.ofList word) with
    | none => rfl
    | some unit =>
      dsimp only
      rw [TimeUnit.sum_amounts]
      cases unit <;> cases fraction <;>
        simp [TimeUnit.whole, TimeUnit.part, TimeUnit.nanos?, Span.plus]
      all_goals rfl

/-! ### Texts -/

namespace Phase

/-- What is complete when the next character is seen. -/
def completed (phase : Phase) (c : Char) : Amounts :=
  match phase with
  | .unit n f letters =>
    if c.isDigit then unitAmounts n f letters.reverse
    else if isBlank c then unitAmounts n f letters.reverse
    else .done
  | _ => .done

/-- The phase behind a character. -/
def next (phase : Phase) (offset : Nat) (c : Char) : Except SpanFault Phase :=
  match phase with
  | .unit n f letters =>
    if c.isDigit then .ok (.whole (c.toNat - '0'.toNat))
    else if isBlank c then .ok (.gap (offset + c.utf8Size))
    else if isUnitLetter c then .ok (.unit n f (c :: letters))
    else .error (.invalidCharacter offset)
  -- only units are added to the sum, so any sum will do
  | phase => (phase.step .zero offset c).map (·.1)

/-- What is complete when the text ends. -/
def last (phase : Phase) (begun : Bool) : Amounts :=
  match phase with
  | .gap _ => if begun then .done else .fault .empty
  | .whole n => unitAmounts n none []
  | .fraction n f reported =>
    if f.denominator = 1 then .fault (.invalidCharacter reported) else unitAmounts n (some f) []
  | .unit n f letters => unitAmounts n f letters.reverse

/-- The amounts that a text writes from a phase on. -/
def amounts (phase : Phase) (begun : Bool) (offset : Nat) : List Char → Amounts
  | [] => phase.last begun
  | c :: rest => (phase.completed c).append <| .ofExcept <| (phase.next offset c).map fun next =>
      next.amounts (begun || c.isDigit) (offset + c.utf8Size) rest

theorem step_eq (phase : Phase) (d : Span) (offset : Nat) (c : Char) :
    phase.step d offset c =
      (phase.completed c).sum d >>= fun e => (phase.next offset c).map (·, e) := by
  unfold step completed next
  cases phase with
  | gap start =>
    dsimp only [step]
    repeat' split
    all_goals rfl
  | whole n =>
    dsimp only [step]
    split
    · cases fit (n * 10 + (c.toNat - '0'.toNat)) <;> rfl
    · repeat' split
      all_goals rfl
  | fraction n f reported =>
    dsimp only [step]
    split
    · cases fit (f.denominator * 10) with
      | error f => rfl
      | ok denominator => cases fit (f.numerator * 10 + (c.toNat - '0'.toNat)) <;> rfl
    · repeat' split
      all_goals rfl
  | unit n f letters =>
    dsimp only
    split
    · rw [addUnits_eq_sum]
      rfl
    · split
      · rw [addUnits_eq_sum]
        rfl
      · split <;> rfl

theorem finish_eq_sum (phase : Phase) (d : Span) (begun : Bool) :
    phase.finish d begun = (phase.last begun).sum d := by
  cases phase with
  | gap start => cases begun <;> rfl
  | whole n => exact addUnits_eq_sum d n none []
  | fraction n f reported =>
    unfold finish last
    dsimp only
    split
    · rfl
    · exact addUnits_eq_sum d n (some f) []
  | unit n f letters => exact addUnits_eq_sum d n f letters.reverse

theorem readFrom_eq_sum (phase : Phase) (d : Span) (begun : Bool) (offset : Nat) (s : List Char) :
    Span.readFrom phase d begun offset s = (phase.amounts begun offset s).sum d := by
  induction s generalizing phase d begun offset with
  | nil => exact phase.finish_eq_sum d begun
  | cons c rest ih =>
    unfold Span.readFrom amounts
    rw [step_eq, Amounts.sum_append, bind_assoc]
    congr 1
    funext e
    rw [Amounts.sum_ofExcept]
    cases phase.next offset c with
    | error f => rfl
    | ok next => exact ih ..

end Phase

/-- The amounts that a text writes. -/
def Span.amounts (s : List Char) : Amounts := Phase.amounts (.gap 0) false 0 s

theorem Span.ofText_eq_sum (s : List Char) : Span.ofText s = (Span.amounts s).sum .zero :=
  Phase.readFrom_eq_sum ..

/-! ### The sum that has no value and is not refused -/

namespace Amounts

/-- Added up from a span on, the amounts come to a sum that is as many seconds as fit and one more
in nanoseconds. -/
inductive Overfill : Amounts → Span → Prop
  | now {a : Amount} {rest : Amounts} {d : Span} (spills : d.Spills a) : Overfill (add a rest) d
  | later {a : Amount} {rest : Amounts} {d e : Span} (added : d.plus a = .ok e)
      (overfill : Overfill rest e) : Overfill (add a rest) d

/-- The fault behind the amounts, if there is one, is none of sums. -/
def Plain : Amounts → Prop
  | done => True
  | fault f => f ≠ .carryOverflow
  | add _ rest => rest.Plain

theorem Plain.append {x y : Amounts} (first : x.Plain) (second : y.Plain) :
    (x.append y).Plain := by
  induction x with
  | done => exact second
  | fault f => exact first
  | add a rest ih => exact ih first

theorem Plain.ofExcept {α : Type} {x : Except SpanFault α} {f : α → Amounts}
    (known : ∀ a, x = .ok a → (f a).Plain) (refused : x ≠ .error .carryOverflow) :
    (ofExcept (x.map f)).Plain := by
  cases x with
  | error fault => exact fun same => refused (congrArg _ same)
  | ok a => exact known a rfl

theorem sum_eq_carryOverflow_iff {x : Amounts} (plain : x.Plain) (d : Span) :
    x.sum d = .error .carryOverflow ↔ x.Overfill d := by
  induction x generalizing d with
  | done => exact ⟨nofun, nofun⟩
  | fault f => exact ⟨fun same => absurd (Except.error.inj same) plain, nofun⟩
  | add a rest ih =>
    unfold sum
    obtain ⟨⟨e, added⟩, fits⟩ | ⟨refused, fits⟩ | ⟨lost, spills⟩ := d.plus_cases a
    · rw [added]
      refine (ih plain e).trans ⟨.later added, fun overfill => ?_⟩
      cases overfill with
      | now spills => exact absurd spills fits
      | later again overfill =>
        rw [added] at again
        exact Except.ok.inj again ▸ overfill
    · rw [refused]
      refine ⟨nofun, fun overfill => ?_⟩
      cases overfill with
      | now spills => exact absurd spills fits
      | later added _ =>
        rw [refused] at added
        cases added
    · rw [lost]
      exact ⟨fun _ => .now spills, fun _ => rfl⟩

end Amounts

theorem bind_ne_carryOverflow {α β : Type} {x : Except SpanFault α} {f : α → Except SpanFault β}
    (first : x ≠ .error .carryOverflow) (second : ∀ a, f a ≠ .error .carryOverflow) :
    x >>= f ≠ .error .carryOverflow := by
  cases x with
  | error fault => exact fun same => first (congrArg _ (Except.error.inj same))
  | ok a => exact second a

theorem fit_ne_carryOverflow (n : Nat) : fit n ≠ .error .carryOverflow := by
  unfold fit
  split <;> nofun

theorem Fraction.of_ne_carryOverflow (f : Fraction) (length : Nat) :
    f.of length ≠ .error .carryOverflow :=
  bind_ne_carryOverflow (fit_ne_carryOverflow _) fun product => by split <;> nofun

theorem TimeUnit.whole_ne_carryOverflow (unit : TimeUnit) (n : Nat) :
    unit.whole n ≠ .error .carryOverflow := by
  unfold whole
  split <;> exact bind_ne_carryOverflow (fit_ne_carryOverflow _) fun _ => nofun

theorem TimeUnit.part_ne_carryOverflow (unit : TimeUnit) (f : Fraction) :
    unit.part f ≠ .error .carryOverflow := by
  unfold part
  split
  · nofun
  all_goals exact bind_ne_carryOverflow (f.of_ne_carryOverflow _) fun _ => nofun

theorem plain_unitAmounts (n : Nat) (fraction : Option Fraction) (word : List Char) :
    (unitAmounts n fraction word).Plain := by
  unfold unitAmounts
  split
  · nofun
  · split
    · nofun
    · next unit _ =>
      refine .ofExcept (fun a _ => ?_) (unit.whole_ne_carryOverflow n)
      cases fraction with
      | none => trivial
      | some f => exact .ofExcept (fun b _ => trivial) (unit.part_ne_carryOverflow f)

namespace Phase

theorem plain_completed (phase : Phase) (c : Char) : (phase.completed c).Plain := by
  unfold completed
  repeat' split
  all_goals first | exact plain_unitAmounts .. | trivial

theorem plain_last (phase : Phase) (begun : Bool) : (phase.last begun).Plain := by
  unfold last
  repeat' split
  all_goals first | exact plain_unitAmounts .. | trivial | nofun

theorem next_ne_carryOverflow (phase : Phase) (offset : Nat) (c : Char) :
    phase.next offset c ≠ .error .carryOverflow := by
  have first {x : Except SpanFault (Phase × Span)} (settled : x ≠ .error .carryOverflow) :
      x.map (·.1) ≠ .error .carryOverflow :=
    bind_ne_carryOverflow settled fun _ => nofun
  cases phase with
  | gap start =>
    refine first ?_
    dsimp only [step]
    repeat' split
    all_goals nofun
  | whole n =>
    refine first ?_
    dsimp only [step]
    split
    · exact bind_ne_carryOverflow (fit_ne_carryOverflow _) fun _ => nofun
    · repeat' split
      all_goals nofun
  | fraction n f reported =>
    refine first ?_
    dsimp only [step]
    split
    · refine bind_ne_carryOverflow (fit_ne_carryOverflow _) fun _ => ?_
      exact bind_ne_carryOverflow (fit_ne_carryOverflow _) fun _ => nofun
    · repeat' split
      all_goals nofun
  | unit n f letters =>
    dsimp only [next]
    repeat' split
    all_goals nofun

theorem plain_amounts (phase : Phase) (begun : Bool) (offset : Nat) (s : List Char) :
    (phase.amounts begun offset s).Plain := by
  induction s generalizing phase begun offset with
  | nil => exact phase.plain_last begun
  | cons c rest ih =>
    exact (phase.plain_completed c).append
      (.ofExcept (fun next _ => ih next _ _) (phase.next_ne_carryOverflow offset c))

end Phase

/-- Reading a text stops the reader where the amounts overfill a span. -/
theorem Span.ofText_eq_carryOverflow_iff (s : List Char) :
    Span.ofText s = .error .carryOverflow ↔ (Span.amounts s).Overfill .zero :=
  ofText_eq_sum s ▸ Amounts.sum_eq_carryOverflow_iff (Phase.plain_amounts ..) .zero

end ShaderFilm.Time
