import Mathlib.Algebra.Order.Floor.Div
import ShaderFilm.Proofs.Render.Remaining

/-!
# The reports of a sequence

A report is due after every second of video and after the last frame (`Schedule.isDue_iff`).  Each
frame that is handed out brings its report along, if one is due, so the reports are on the numbers
of frames in `Schedule.reportedCounts` (`Sequence.reported_start`).  Before the last frame there is
one for each second that is complete (`Schedule.length_reportedCounts`), and the last frame has one
in any case (`Schedule.length_reportedCounts_total`).
-/

namespace ShaderFilm.Render

variable {σ : Type}

/-! ### When a report is due -/

namespace Schedule

/-- The number of frames from one report to the next. -/
def reportInterval (schedule : Schedule) : Nat := max schedule.fps.toNat 1

/-- The reports that a sequence makes. -/
def progress (schedule : Schedule) : Progress := .ofInterval schedule.total schedule.fps.toUInt64

/-- The numbers of frames, up to `k`, that are reported. -/
def reportedCounts (schedule : Schedule) (k : Nat) : List Nat :=
  (List.range' 1 k).filter fun c => schedule.reportInterval ∣ c ∨ c = schedule.total.toNat

variable {schedule : Schedule} {k : Nat}

theorem toNat_interval (schedule : Schedule) :
    schedule.progress.interval.toNat = schedule.reportInterval := by
  rw [progress, Progress.ofInterval, reportInterval]
  split
  · next none =>
    have zero : schedule.fps.toNat = 0 := by
      rw [← UInt32.toNat_toUInt64, none]
      rfl
    rw [zero]
    rfl
  · next some =>
    have positive : schedule.fps.toNat ≠ 0 := fun zero =>
      some (UInt64.toNat.inj (by rw [UInt32.toNat_toUInt64, zero]; rfl))
    show schedule.fps.toUInt64.toNat = _
    rw [UInt32.toNat_toUInt64]
    omega

theorem total_progress (schedule : Schedule) : schedule.progress.total = schedule.total := by
  rw [progress, Progress.ofInterval]
  split <;> rfl

theorem isDue_iff {c : UInt64} (positive : 0 < c.toNat) :
    schedule.progress.isDue c = true ↔
      schedule.reportInterval ∣ c.toNat ∨ c.toNat = schedule.total.toNat := by
  have begun : 0 < c := UInt64.lt_iff_toNat_lt.2 positive
  rw [Progress.isDue, Bool.and_eq_true, Bool.or_eq_true, beq_iff_eq, beq_iff_eq, total_progress,
    Nat.dvd_iff_mod_eq_zero, ← toNat_interval, ← UInt64.toNat_mod, UInt64.toNat_inj]
  simp only [begun, decide_true, true_and]
  exact or_congr_left (UInt64.toNat_inj (b := 0)).symm

theorem mem_reportedCounts {c : Nat} :
    c ∈ schedule.reportedCounts k ↔
      1 ≤ c ∧ c ≤ k ∧ (schedule.reportInterval ∣ c ∨ c = schedule.total.toNat) := by
  rw [reportedCounts, List.mem_filter, List.mem_range'_1, decide_eq_true_iff, and_assoc]
  refine and_congr_right fun _ => and_congr_left fun _ => ?_
  omega

theorem pairwise_reportedCounts (schedule : Schedule) (k : Nat) :
    (schedule.reportedCounts k).Pairwise (· < ·) :=
  List.Pairwise.filter _ List.pairwise_lt_range'

theorem reportedCounts_succ (schedule : Schedule) (k : Nat) :
    schedule.reportedCounts (k + 1) = schedule.reportedCounts k ++
      if schedule.reportInterval ∣ k + 1 ∨ k + 1 = schedule.total.toNat then [k + 1] else [] := by
  rw [reportedCounts, List.range'_concat, List.filter_append, Nat.one_mul, Nat.add_comm 1 k,
    List.filter_singleton, reportedCounts, Bool.cond_decide]

/-- One more frame adds the report that is due after it, if there is one. -/
theorem map_reportedCounts_succ (lt : k < schedule.total.toNat) :
    (schedule.reportedCounts (k + 1)).map (schedule.progress.report <| .ofNat ·) =
      (schedule.reportedCounts k).map (schedule.progress.report <| .ofNat ·) ++
        schedule.progress.reports (.ofNat (k + 1)) := by
  have count : (UInt64.ofNat (k + 1)).toNat = k + 1 := toNat_ofNat_of_le_total lt
  have due := schedule.isDue_iff (c := .ofNat (k + 1)) (by omega)
  rw [count] at due
  rw [reportedCounts_succ, List.map_append, Progress.reports]
  simp only [due]
  split <;> rfl

/-- Before the last frame there is a report for each interval that is complete. -/
theorem length_reportedCounts (lt : k < schedule.total.toNat) :
    (schedule.reportedCounts k).length = k / schedule.reportInterval := by
  induction k with
  | zero => simp [reportedCounts]
  | succ k ih =>
    have before : k + 1 ≠ schedule.total.toNat := Nat.ne_of_lt lt
    rw [reportedCounts_succ, List.length_append, ih (by omega), Nat.succ_div]
    simp only [before, or_false]
    split <;> rfl

theorem reportedCounts_total (all : schedule.total.toNat = k + 1) :
    schedule.reportedCounts (k + 1) = schedule.reportedCounts k ++ [k + 1] := by
  rw [reportedCounts_succ, if_pos (.inr all.symm)]

/-- With the last frame there is a report for each interval, complete or not. -/
theorem length_reportedCounts_total (all : schedule.total.toNat = k + 1) :
    (schedule.reportedCounts (k + 1)).length = (k + 1) ⌈/⌉ schedule.reportInterval := by
  have positive : 0 < schedule.reportInterval := Nat.le_max_right _ _
  have before : k < schedule.total.toNat := by omega
  have rounded : k + 1 + schedule.reportInterval - 1 = k + schedule.reportInterval := by omega
  rw [reportedCounts_total all, List.length_append, length_reportedCounts before,
    Nat.ceilDiv_eq_add_pred_div, rounded, Nat.add_div_right _ positive]
  rfl

end Schedule

/-! ### The reports on the answers -/

namespace Sequence

/-- The reports that come along with the answers to the first questions. -/
def reported (r : Renderer σ) (t : Sequence σ) : Nat → List Log.Event
  | 0 => []
  | n + 1 => reported r t n ++ (((answers r t n).2.next r).1.map Prod.snd).getD []

/-- Whether an answer is a frame. -/
def isFrame : Option Item → Bool
  | some (.ok _) => true
  | _ => false

variable {r : Renderer σ} {schedule : Schedule} {s : σ} {n : Nat}

theorem completed_answers (r : Renderer σ) (schedule : Schedule) (s : σ) (n : Nat) :
    (answers r (start s schedule) n).2.completed.toNat =
      (answers r (start s schedule) n).1.countP isFrame := by
  induction n with
  | zero => rfl
  | succ n ih =>
    rw [answers, List.countP_append, ← ih]
    have asked := asked_next r (answers r (start s schedule) n).2
    generalize (answers r (start s schedule) n).2.next r = next at asked ⊢
    cases asked with
    | ended => rfl
    | failed => rfl
    | drawn running lt => exact toNat_completed_succ lt

/-- The reports are on the numbers of frames that are to be reported, in order. -/
theorem reported_start (r : Renderer σ) (schedule : Schedule) (s : σ) (n : Nat) :
    reported r (start s schedule) n =
      (schedule.reportedCounts (answers r (start s schedule) n).2.completed.toNat).map
        (schedule.progress.report <| .ofNat ·) := by
  induction n with
  | zero => rfl
  | succ n ih =>
    rw [reported, ih, answers]
    have same : (answers r (start s schedule) n).2.schedule = schedule := schedule_answers r _ n
    have asked := asked_next r (answers r (start s schedule) n).2
    generalize (answers r (start s schedule) n).2 = t at asked same ⊢
    generalize t.next r = next at asked ⊢
    cases asked with
    | ended => exact List.append_nil _
    | failed => exact List.append_nil _
    | drawn running lt =>
      have count := toNat_completed_succ lt
      have below := UInt64.lt_iff_toNat_lt.1 lt
      show _ ++ t.schedule.progress.reports (t.completed + 1) = _
      rw [same] at below ⊢
      rw [count, Schedule.map_reportedCounts_succ below, ← count, UInt64.ofNat_toNat]

/-- However often a sequence is asked, it reports on the numbers `c` of frames handed out so far for
which `c` is a multiple of the rate or the number of all frames, on each of them once and in order.
So a sequence that has handed out all frames has made a report for every second, the last one
included, and the last report is on all frames; before that it has made one for each complete
second. -/
theorem reported_answers (r : Renderer σ) (schedule : Schedule) (s : σ) (n : Nat) :
    let k := (answers r (start s schedule) n).1.countP isFrame
    let total := schedule.total.toNat
    let interval := max schedule.fps.toNat 1
    let report := (start s schedule).progress.report
    let reports := reported r (start s schedule) n
    k ≤ total ∧
      (∃ counts : List Nat, reports = counts.map (report <| .ofNat ·) ∧
        counts.Pairwise (· < ·) ∧
        ∀ c, c ∈ counts ↔ 1 ≤ c ∧ c ≤ k ∧ (interval ∣ c ∨ c = total)) ∧
      (k = total → 1 ≤ total →
        reports.length = total ⌈/⌉ interval ∧ reports.getLast? = some (report schedule.total)) ∧
      (k < total → reports.length = k / interval) := by
  intro k total interval report reports
  have frames : (answers r (start s schedule) n).2.completed.toNat = k :=
    completed_answers r schedule s n
  have within : k ≤ total := by
    have within := within_answers r schedule s n
    rw [Within, schedule_answers] at within
    rw [← frames]
    exact UInt64.le_iff_toNat_le.1 within
  have all : reports = (schedule.reportedCounts k).map (report <| .ofNat ·) := by
    rw [← frames]
    exact reported_start r schedule s n
  refine ⟨within, ⟨schedule.reportedCounts k, all, schedule.pairwise_reportedCounts k,
    fun c => Schedule.mem_reportedCounts⟩, fun complete positive => ?_, fun lt => ?_⟩
  · obtain ⟨m, last⟩ : ∃ m, total = m + 1 := Nat.exists_eq_add_one.2 positive
    rw [all, complete, last, List.length_map]
    refine ⟨Schedule.length_reportedCounts_total last, ?_⟩
    rw [Schedule.reportedCounts_total last, List.map_append, ← last]
    simp [total]
  · rw [all, List.length_map]
    exact Schedule.length_reportedCounts lt

/-- Three frames, two for each second: none of the reports is due after the first frame, and there
are two in all. -/
theorem reported_answers_three :
    let p : Pixels := .filled 2 1 ⟨0, 0, 0, 255⟩ (by decide)
    let r : Renderer Unit := ⟨fun _ => (2, 1), fun _ _ => (.ok p, ())⟩
    let t := start () ⟨0, 2, 3⟩
    (reported r t 1).length = 0 ∧ (reported r t 4).length = 2 ∧
      (reported r t 4).getLast? = some (t.progress.report 3) := by
  intro p r t
  obtain ⟨-, -, -, early⟩ := reported_answers r ⟨0, 2, 3⟩ () 1
  obtain ⟨-, -, complete, -⟩ := reported_answers r ⟨0, 2, 3⟩ () 4
  obtain ⟨count, last⟩ := complete rfl (by decide)
  exact ⟨(early (by decide)).trans (by decide), count.trans (by decide), last⟩

end Sequence

end ShaderFilm.Render
