import Mathlib
import ShaderFilm.Proofs.CommandLine.Duration
import ShaderFilm.Proofs.Time.Seconds

/-!
# One duration in two places

A text behind the option and the same text in a job file mean the same duration, as far as a span
can hold it.  Numbers with units are read to a span in either place.  A plain number stays a double
behind the option; the job file makes a span of it, which refuses numbers from `2 ^ 64` on and rounds
the others to nanoseconds.
-/

namespace ShaderFilm.CommandLine

open ShaderFilm.Time ShaderFilm.JobFile ShaderFilm.Number
open ShaderFilm.Text (trim)

/-! ### Behind the option -/

section Option

variable {s : List Char} {x y : Float}

theorem readDuration_eq_ok_iff :
    readDuration s = .ok y ↔
      trim s ≠ [] ∧ readSeconds (trim s) = .ok y ∧ y.isFinite = true ∧ ¬ y < 0.0 := by
  unfold readDuration
  dsimp only
  by_cases empty : trim s = []
  · rw [empty]
    exact ⟨nofun, fun ⟨nonempty, _⟩ => absurd rfl nonempty⟩
  · rw [if_neg (by simpa using empty)]
    cases readSeconds (trim s) with
    | error fault => exact ⟨nofun, nofun⟩
    | ok x =>
      by_cases refused : (!x.isFinite || x < 0.0) = true
      · simp only [bind, Except.bind, pure, Except.pure, refused]
        refine ⟨nofun, fun ⟨_, same, finite, nonneg⟩ => ?_⟩
        cases same
        simp [finite, nonneg] at refused
      · simp only [bind, Except.bind, pure, Except.pure, refused]
        refine ⟨fun same => ?_, fun ⟨_, same, _⟩ => same⟩
        cases same
        simp at refused
        exact ⟨empty, rfl, refused.1, refused.2⟩

theorem readDuration_of_hasUnits (units : HasUnits s) :
    readDuration s = .ok y ↔ ∃ d, Span.ofText s = .ok d ∧ d.toFloat = y := by
  have seconds : readSeconds (trim s) = .ok y ↔ ∃ d, Span.ofText s = .ok d ∧ d.toFloat = y := by
    unfold readSeconds
    rw [show readNumber? (trim s) = none from units]
    simp only [← Span.ofText_trim_eq_ok_iff s]
    cases Span.ofText (trim s) <;> simp
  rw [readDuration_eq_ok_iff, seconds]
  refine ⟨fun ⟨_, read, _⟩ => read, fun ⟨d, read, same⟩ => ?_⟩
  refine ⟨fun empty => ?_, ⟨d, read, same⟩, same ▸ d.toFloat_nonneg⟩
  rw [← Span.ofText_trim_eq_ok_iff, empty] at read
  cases read

theorem readDuration_of_number (number : readNumber? (trim s) = some x) :
    readDuration s = .ok y ↔ x = y ∧ x.isFinite = true ∧ ¬ x < 0.0 := by
  have seconds : readSeconds (trim s) = .ok x := by
    unfold readSeconds
    rw [number]
  rw [readDuration_eq_ok_iff, seconds]
  constructor
  · rintro ⟨-, same, finite, nonneg⟩
    cases same
    exact ⟨rfl, finite, nonneg⟩
  · rintro ⟨rfl, finite, nonneg⟩
    refine ⟨fun empty => ?_, rfl, finite, nonneg⟩
    rw [empty] at number
    cases number

end Option

/-! ### In a job file -/

section JobFile

variable {dialect : Dialect} {c c' : Contents} {s : String} {x : Float}

theorem put_duration_eq_ok_iff :
    Contents.put dialect "duration" (.string s) c = .ok c' ↔
      ∃ d, Datum.spanOfText s = .ok d ∧ { c with duration := some d } = c' := by
  have put : Contents.put dialect "duration" (.string s) c =
      (Datum.spanOfText s).map fun d => { c with duration := some d } := by
    show ((Datum.spanOfText s).map some >>= fun value =>
      pure { c with duration := value }) = _
    cases Datum.spanOfText s <;> rfl
  rw [put]
  cases Datum.spanOfText s <;> simp [Except.map]

theorem spanOfText_of_hasUnits (units : HasUnits s.toList) {d : Span} :
    Datum.spanOfText s = .ok d ↔ Span.ofText s.toList = .ok d := by
  unfold Datum.spanOfText
  rw [show readNumber? (trim s.toList) = none from units]
  dsimp only
  cases Span.ofText s.toList <;> simp

theorem spanOfText_of_number (number : readNumber? (trim s.toList) = some x) {d : Span} :
    Datum.spanOfText s = .ok d ↔ Span.ofFloat? x = some d := by
  unfold Datum.spanOfText
  rw [number]
  dsimp only
  cases Span.ofFloat? x <;> simp

end JobFile

/-- The job file takes what the option takes, and means the same by it.  A number without units has
to be below the limit of spans, and the span is that number as far as nanoseconds tell. -/
theorem put_duration_iff_readDuration (dialect : Dialect) (c : Contents) (s : String) :
    ((∃ c', Contents.put dialect "duration" (.string s) c = .ok c') ↔
        ∃ y, readDuration s.toList = .ok y ∧ (HasUnits s.toList ∨ value y < 2 ^ 64)) ∧
      ∀ y c', readDuration s.toList = .ok y →
        Contents.put dialect "duration" (.string s) c = .ok c' →
        ∃ d, c'.duration = some d ∧ c'.durationSeconds = some d.toFloat ∧
          (HasUnits s.toList → d.toFloat = y) ∧ (¬ HasUnits s.toList → d.Rounded y) := by
  simp only [put_duration_eq_ok_iff]
  cases number : readNumber? (trim s.toList) with
  | none =>
    have units : HasUnits s.toList := number
    simp only [readDuration_of_hasUnits units, spanOfText_of_hasUnits units, units, true_or,
      and_true, not_true]
    refine ⟨⟨fun ⟨_, d, read, _⟩ => ⟨_, d, read, rfl⟩, fun ⟨_, d, read, _⟩ => ⟨_, d, read, rfl⟩⟩, ?_⟩
    rintro y c' ⟨d, read, rfl⟩ ⟨e, again, rfl⟩
    obtain rfl : d = e := Except.ok.inj (read.symm.trans again)
    exact ⟨d, rfl, rfl, fun _ => rfl, nofun⟩
  | some x =>
    have plain : ¬ HasUnits s.toList := fun units => by
      rw [HasUnits, number] at units
      cases units
    simp only [readDuration_of_number number, spanOfText_of_number number, plain, false_or]
    constructor
    · constructor
      · rintro ⟨c', d, read, -⟩
        obtain ⟨finite, nonneg, below⟩ := (Span.exists_ofFloat?_iff x).1 ⟨d, read⟩
        exact ⟨x, ⟨rfl, finite, nonneg⟩, below⟩
      · rintro ⟨_, ⟨rfl, finite, nonneg⟩, below⟩
        obtain ⟨d, read⟩ := (Span.exists_ofFloat?_iff x).2 ⟨finite, nonneg, below⟩
        exact ⟨_, d, read, rfl⟩
    · rintro _ c' ⟨rfl, finite, nonneg⟩ ⟨d, read, rfl⟩
      exact ⟨d, rfl, rfl, fun units => absurd units id, fun _ => Span.rounded_of_ofFloat? read⟩

/-- A number that no span holds is taken behind the option alone, and 1.82 is not the same double in
either place. -/
theorem readDuration_differs :
    (∃ y, readDuration "1e20".toList = .ok y) ∧
      (∃ m, Contents.put .toml "duration" (.string "1e20") .empty = .error m) ∧
      ∃ y z c', readDuration "1.82".toList = .ok y ∧
        Contents.put .toml "duration" (.string "1.82") .empty = .ok c' ∧
        c'.durationSeconds = some z ∧ y.toBits = 0x3FFD1EB851EB851F ∧
        z.toBits = 0x3FFD1EB851EB851E := by
  refine ⟨⟨_, by rfl⟩, ⟨_, by rfl⟩, _, _, _, by rfl, by rfl, by rfl, by rfl, by rfl⟩

/-- The difference at 1.82 is below a nanosecond. -/
theorem put_duration_iff_readDuration_fraction :
    ∃ y z c', readDuration "1.82".toList = .ok y ∧
      Contents.put .toml "duration" (.string "1.82") .empty = .ok c' ∧
      c'.durationSeconds = some z ∧ |value z - value y| < 1 / 10 ^ 9 := by
  obtain ⟨y, read⟩ : ∃ y, readDuration "1.82".toList = .ok y := ⟨_, by rfl⟩
  obtain ⟨c', put⟩ : ∃ c', Contents.put .toml "duration" (.string "1.82") .empty = .ok c' :=
    ⟨_, by rfl⟩
  have plain : ¬ HasUnits "1.82".toList := fun units => by
    have written : (readNumber? (trim "1.82".toList)).isSome = true := by rfl
    rw [show readNumber? (trim "1.82".toList) = none from units] at written
    cases written
  obtain ⟨d, -, seconds, -, number⟩ :=
    (put_duration_iff_readDuration .toml .empty "1.82").2 y c' read put
  exact ⟨y, d.toFloat, c', read, put, seconds, (number plain).close⟩

end ShaderFilm.CommandLine
