import ShaderFilm.CommandLine.Value
import ShaderFilm.JobFile.Contents
import ShaderFilm.Proofs.Time.Trim

/-!
# Texts of durations that stop the program

A duration is written behind an option or in a job file, and either reader takes numbers with units
where the text is no number.  Both answer with a value or with a fault that is reported, unless the
amounts that the text writes come to as many seconds as a span holds and one more in nanoseconds
(`Overfull`): the carry of that second is not checked as the other sums are.
-/

namespace ShaderFilm.CommandLine

open ShaderFilm.Time ShaderFilm.JobFile
open ShaderFilm.Text (trim)

/-- The text is no number, so that it is read as numbers with units. -/
def HasUnits (s : List Char) : Prop := Number.readNumber? (trim s) = none

/-- The text is read with units, and its amounts overfill a span. -/
def Overfull (s : List Char) : Prop := HasUnits s ∧ (Span.amounts s).Overfill .zero

theorem readSeconds_crashes_iff (s : List Char) :
    (∃ fault, readSeconds s = .error fault ∧ fault.crashes = true) ↔
      Number.readNumber? s = none ∧ Span.ofText s = .error .carryOverflow := by
  unfold readSeconds
  cases Number.readNumber? s with
  | some x => exact ⟨nofun, nofun⟩
  | none =>
    dsimp only
    cases Span.ofText s with
    | ok d => exact ⟨nofun, nofun⟩
    | error fault => cases fault <;> simp [ValueFault.crashes]

/-- A faulty text is faulty with the same words ahead of the check of the sign. -/
theorem readDuration_crashes_iff_readSeconds (s : List Char) :
    (∃ fault, readDuration s = .error fault ∧ fault.crashes = true) ↔
      ∃ fault, readSeconds (trim s) = .error fault ∧ fault.crashes = true := by
  unfold readDuration
  dsimp only
  by_cases empty : (trim s).isEmpty = true
  · have none : trim s = [] := List.isEmpty_iff.1 empty
    rw [none]
    exact ⟨nofun, nofun⟩
  · rw [if_neg empty]
    cases readSeconds (trim s) with
    | error fault => exact Iff.rfl
    | ok x =>
      refine ⟨fun ⟨fault, read, crashes⟩ => ?_, nofun⟩
      by_cases refused : (!x.isFinite || x < 0.0) = true
      · simp only [bind, Except.bind, pure, Except.pure, refused] at read
        cases read
        cases crashes
      · simp only [bind, Except.bind, pure, Except.pure, refused] at read
        cases read

theorem readDuration_crashes_iff (s : List Char) :
    (∃ fault, readDuration s = .error fault ∧ fault.crashes = true) ↔ Overfull s := by
  rw [readDuration_crashes_iff_readSeconds, readSeconds_crashes_iff,
    Span.ofText_trim_eq_carryOverflow_iff, Span.ofText_eq_carryOverflow_iff, Overfull, HasUnits]

theorem spanOfText_crashes_iff (dialect : Dialect) (s : String) :
    (∃ m, Datum.spanOfText s = .error m ∧ (JobFile.Fault.mismatch dialect m).crashes = true) ↔
      Overfull s.toList := by
  rw [Overfull, HasUnits, ← Span.ofText_eq_carryOverflow_iff]
  unfold Datum.spanOfText
  cases Number.readNumber? (trim s.toList) with
  | some x =>
    dsimp only
    cases Span.ofFloat? x <;> simp [JobFile.Fault.crashes]
  | none =>
    dsimp only
    cases Span.ofText s.toList with
    | ok d => exact ⟨nofun, nofun⟩
    | error fault => cases fault <;> simp [JobFile.Fault.crashes]

theorem span_crashes_iff (dialect : Dialect) (d : Datum) :
    (∃ m, d.span = .error m ∧ (JobFile.Fault.mismatch dialect m).crashes = true) ↔
      ∃ s, d = .string s ∧ Overfull s.toList := by
  cases d with
  | string s =>
    have same : (∃ t, Datum.string s = .string t ∧ Overfull t.toList) ↔ Overfull s.toList := by
      simp
    rw [same, ← spanOfText_crashes_iff dialect]
    unfold Datum.span
    dsimp only
    cases Datum.spanOfText s with
    | ok d => exact ⟨nofun, nofun⟩
    | error m => simp [Except.map]
  | integer n =>
    unfold Datum.span
    dsimp only
    split
    · simp [JobFile.Fault.crashes]
    · split <;> simp [JobFile.Fault.crashes]
  | float x =>
    unfold Datum.span
    dsimp only
    split <;> simp [JobFile.Fault.crashes]
  | _ => simp [Datum.span, JobFile.Fault.crashes]

/-- No text of a duration stops the program, be it behind the option or in a job file, but those
that overfill a span, and these do. -/
theorem duration_crashes_iff (dialect : Dialect) (s : List Char) (d : Datum) :
    ((∃ fault, readDuration s = .error fault ∧ fault.crashes = true) ↔ Overfull s) ∧
      ((∃ m, d.span = .error m ∧ (JobFile.Fault.mismatch dialect m).crashes = true) ↔
        ∃ t, d = .string t ∧ Overfull t.toList) :=
  ⟨readDuration_crashes_iff s, span_crashes_iff dialect d⟩

/-- As many seconds as fit are read, and so is a billion of nanoseconds; both together are not. -/
theorem duration_crashes :
    (∃ fault, readDuration "18446744073709551615s 1000000000ns".toList = .error fault ∧
        fault.crashes = true) ∧
      ∀ dialect, ∃ m, (Datum.string "18446744073709551615s 1000000000ns").span = .error m ∧
        (JobFile.Fault.mismatch dialect m).crashes = true := by
  refine ⟨⟨.malformedDuration _ .carryOverflow, by rfl, rfl⟩, fun dialect =>
    ⟨.malformedDuration _ .carryOverflow, by rfl, rfl⟩⟩

-- one nanosecond more is refused
example : Span.ofText "18446744073709551615s 1000000001ns".toList = .error .notRepresentable := by
  rfl

-- one nanosecond less fits
example : (Span.ofText "18446744073709551615s 999999999ns".toList).toBool = true := by
  rfl

end ShaderFilm.CommandLine
