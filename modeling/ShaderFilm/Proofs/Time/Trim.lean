import Mathlib.Data.List.Induction
import ShaderFilm.Proofs.Text.Rename
import ShaderFilm.Proofs.Time.Amounts

/-!
# Written spans between blanks

Blanks around a text change nothing but the places at which its faults are reported
(`Span.ofText_trim`): a blank in front is passed over, and one behind the last unit ends the word
that the end of the text would end.
-/

namespace ShaderFilm.Time

open ShaderFilm.Text

/-! ### Places of faults -/

/-- A fault without the place in the text. -/
def SpanFault.unplaced : SpanFault → SpanFault
  | invalidCharacter _ => invalidCharacter 0
  | numberExpected _ => numberExpected 0
  | fault => fault

def Phase.unplaced : Phase → Phase
  | gap _ => gap 0
  | fraction n f _ => fraction n f 0
  | phase => phase

def Amounts.unplaced : Amounts → Amounts
  | done => done
  | fault f => fault f.unplaced
  | add a rest => add a rest.unplaced

theorem Amounts.unplaced_append (x y : Amounts) :
    (x.append y).unplaced = x.unplaced.append y.unplaced := by
  induction x with
  | done => rfl
  | fault f => rfl
  | add a rest ih => exact congrArg (add a) ih

/-- Places do not depend on the sum, and the faults of sums have none. -/
theorem Span.mapError_plus (d : Span) (a : Amount) :
    (d.plus a).mapError SpanFault.unplaced = d.plus a := by
  obtain ⟨⟨e, added⟩, -⟩ | ⟨added, -⟩ | ⟨added, -⟩ := d.plus_cases a <;> rw [added] <;> rfl

theorem Amounts.sum_unplaced (x : Amounts) (d : Span) :
    x.unplaced.sum d = (x.sum d).mapError SpanFault.unplaced := by
  induction x generalizing d with
  | done => rfl
  | fault f => rfl
  | add a rest ih =>
    unfold unplaced sum
    have same := d.mapError_plus a
    cases added : d.plus a with
    | error f =>
      rw [added] at same
      exact same.symm
    | ok e => exact ih e

namespace Phase

/-- A next phase, places left aside. -/
def bare (x : Except SpanFault Phase) : Except SpanFault Phase :=
  (x.map unplaced).mapError SpanFault.unplaced

theorem bare_next (phase : Phase) (offset : Nat) (c : Char) :
    bare (phase.next offset c) = bare (phase.unplaced.next 0 c) := by
  cases phase with
  | gap start =>
    dsimp only [next, unplaced, step]
    repeat' split
    all_goals rfl
  | whole n =>
    dsimp only [next, unplaced, step]
    split
    · cases fit (n * 10 + (c.toNat - '0'.toNat)) <;> rfl
    · repeat' split
      all_goals rfl
  | fraction n f reported =>
    dsimp only [next, unplaced, step]
    split
    · cases fit (f.denominator * 10) with
      | error f => rfl
      | ok denominator => cases fit (f.numerator * 10 + (c.toNat - '0'.toNat)) <;> rfl
    · repeat' split
      all_goals rfl
  | unit n f letters =>
    dsimp only [next, unplaced]
    repeat' split
    all_goals rfl

theorem completed_unplaced (phase : Phase) (c : Char) :
    phase.unplaced.completed c = phase.completed c := by
  cases phase <;> rfl

theorem last_unplaced (phase : Phase) (begun : Bool) :
    (phase.last begun).unplaced = (phase.unplaced.last begun).unplaced := by
  cases phase with
  | fraction n f reported =>
    unfold unplaced last
    dsimp only
    split <;> rfl
  | _ => rfl

theorem amounts_unplaced (phase : Phase) (begun : Bool) (offset : Nat) (s : List Char) :
    (phase.amounts begun offset s).unplaced = (phase.unplaced.amounts begun 0 s).unplaced := by
  induction s generalizing phase begun offset with
  | nil => exact phase.last_unplaced begun
  | cons c rest ih =>
    unfold amounts
    rw [Amounts.unplaced_append, Amounts.unplaced_append, completed_unplaced]
    congr 1
    have same := phase.bare_next offset c
    cases here : phase.next offset c with
    | error f =>
      cases there : phase.unplaced.next 0 c with
      | error g =>
        rw [here, there] at same
        exact congrArg Amounts.fault (Except.error.inj same)
      | ok next =>
        rw [here, there] at same
        cases same
    | ok next =>
      cases there : phase.unplaced.next 0 c with
      | error g =>
        rw [here, there] at same
        cases same
      | ok other =>
        rw [here, there] at same
        have alike : next.unplaced = other.unplaced := Except.ok.inj same
        exact (ih next _ _).trans (alike ▸ (ih other _ _).symm)

/-! ### Blanks at either end -/

theorem isDigit_of_isBlank {c : Char} (blank : isBlank c = true) : c.isDigit = false := by
  cases digit : c.isDigit with
  | false => rfl
  | true =>
    have ident : isIdentChar c = true := by simp [isIdentChar, Char.isAlphanum, digit]
    rw [isBlank_of_isIdentChar ident] at blank
    cases blank

/-- A number is expected, or a number has begun before. -/
def Begun (begun : Bool) : Phase → Prop
  | gap _ => True
  | _ => begun = true

theorem Begun.next {phase next : Phase} {begun : Bool} {offset : Nat} {c : Char}
    (started : phase.Begun begun) (read : phase.next offset c = .ok next) :
    next.Begun (begun || c.isDigit) := by
  cases phase with
  | gap start =>
    dsimp only [Phase.next, step] at read
    split at read
    · next digit =>
      cases read
      show (begun || c.isDigit) = true
      rw [digit, Bool.or_true]
    · split at read
      · cases read
        trivial
      · cases read
  | _ =>
    have began : begun = true := started
    rw [began, Bool.true_or]
    cases next <;> trivial

/-- The phase behind a blank. -/
def pause (phase : Phase) (offset : Nat) : Phase :=
  match phase with
  | fraction n f _ => fraction n f offset
  | unit _ _ _ => gap offset
  | phase => phase

theorem next_blank {b : Char} (blank : isBlank b = true) (phase : Phase) (offset : Nat) :
    phase.next offset b = .ok (phase.pause (offset + b.utf8Size)) := by
  have digit := isDigit_of_isBlank blank
  cases phase <;>
    simp only [next, step, digit, blank, if_true, Bool.false_eq_true, if_false] <;> rfl

theorem amounts_concat_blank {b : Char} (blank : isBlank b = true) {phase : Phase} {begun : Bool}
    (started : phase.Begun begun) (offset : Nat) (s : List Char) :
    (phase.amounts begun offset (s ++ [b])).unplaced = (phase.amounts begun offset s).unplaced := by
  induction s generalizing phase begun offset with
  | nil =>
    show ((phase.completed b).append (.ofExcept ((phase.next offset b).map fun next =>
      next.last (begun || b.isDigit)))).unplaced = (phase.last begun).unplaced
    rw [isDigit_of_isBlank blank, Bool.or_false, next_blank blank]
    cases phase with
    | gap start => rfl
    | whole n => rfl
    | fraction n f reported =>
      exact (last_unplaced (fraction n f (offset + b.utf8Size)) begun).trans
        (last_unplaced (fraction n f reported) begun).symm
    | unit n f letters =>
      have began : begun = true := started
      have word : (unit n f letters).completed b = unitAmounts n f letters.reverse := by
        unfold completed
        simp only [blank, if_true, ite_self]
      rw [word, began]
      exact congrArg Amounts.unplaced (Amounts.append_done _)
  | cons c rest ih =>
    rw [List.cons_append, amounts, amounts, Amounts.unplaced_append, Amounts.unplaced_append]
    congr 1
    cases read : phase.next offset c with
    | error f => rfl
    | ok next => exact ih (started.next read) _

theorem amounts_gap_cons {b : Char} (blank : isBlank b = true) (start offset : Nat)
    (s : List Char) :
    ((gap start).amounts false offset (b :: s)).unplaced =
      ((gap 0).amounts false 0 s).unplaced := by
  have passed : (gap start).amounts false offset (b :: s) =
      (gap start).amounts false (offset + b.utf8Size) s := by
    rw [amounts, next_blank blank, isDigit_of_isBlank blank]
    rfl
  rw [passed, amounts_unplaced]
  rfl

end Phase

namespace Span

theorem amounts_trimStart (s : List Char) :
    (amounts (trimStart s)).unplaced = (amounts s).unplaced := by
  induction s with
  | nil => rfl
  | cons c rest ih =>
    by_cases blank : isBlank c = true
    · rw [trimStart, List.dropWhile_cons_of_pos blank]
      exact ih.trans (Phase.amounts_gap_cons blank 0 0 rest).symm
    · rw [trimStart, List.dropWhile_cons_of_neg blank]

theorem amounts_trimEnd (s : List Char) :
    (amounts (trimEnd s)).unplaced = (amounts s).unplaced := by
  induction s using List.reverseRecOn with
  | nil => rfl
  | append_singleton front c ih =>
    by_cases blank : isBlank c = true
    · rw [trimEnd_concat_blank blank]
      have started : Phase.Begun false (.gap 0) := trivial
      exact ih.trans (Phase.amounts_concat_blank blank started 0 front).symm
    · rw [trimEnd, List.reverse_append, List.reverse_singleton, List.singleton_append,
        List.dropWhile_cons_of_neg blank, List.reverse_cons, List.reverse_reverse]

theorem ofText_unplaced (s : List Char) :
    (ofText s).mapError SpanFault.unplaced = (amounts s).unplaced.sum .zero := by
  rw [ofText_eq_sum, Amounts.sum_unplaced]

/-- A trimmed text writes the same span, or has the same fault. -/
theorem ofText_trim (s : List Char) :
    (ofText (trim s)).mapError SpanFault.unplaced = (ofText s).mapError SpanFault.unplaced := by
  rw [ofText_unplaced, ofText_unplaced, trim, amounts_trimEnd, amounts_trimStart]

theorem ofText_trim_eq_ok_iff (s : List Char) (d : Span) :
    ofText (trim s) = .ok d ↔ ofText s = .ok d := by
  have same := ofText_trim s
  cases left : ofText (trim s) <;> cases right : ofText s <;> rw [left, right] at same
  · exact ⟨nofun, nofun⟩
  · cases same
  · cases same
  · exact (Except.ok.inj same) ▸ Iff.rfl

theorem ofText_trim_eq_carryOverflow_iff (s : List Char) :
    ofText (trim s) = .error .carryOverflow ↔ ofText s = .error .carryOverflow := by
  have placeless (x : Except SpanFault Span) :
      x.mapError SpanFault.unplaced = .error .carryOverflow ↔ x = .error .carryOverflow := by
    rcases x with fault | d
    · cases fault <;> simp [Except.mapError, SpanFault.unplaced]
    · simp [Except.mapError]
  rw [← placeless, ofText_trim, placeless]

end Span

end ShaderFilm.Time
