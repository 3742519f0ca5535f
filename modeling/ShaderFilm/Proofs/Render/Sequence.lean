import Mathlib.Tactic.SplitIfs
import ShaderFilm.Render.Sequence

/-!
# The course of a sequence

A renderer that draws the frames of a schedule one after the other goes through the states `after`,
and what it makes of frame `i` is `item`.  A sequence that has handed out `k` frames is `underway`,
and `Course` says what it has answered by then and what has become of it.  Every question keeps a
course (`Course.next`), so all sequences have one (`course_answers`).  A renderer that is `recorded`
remembers when it was asked to draw; this changes nothing else (`next_forget`).
-/

namespace ShaderFilm.Render

variable {σ : Type}

/-! ### Frames of a schedule -/

namespace Schedule

/-- The frame with the index `i`, of which there may be none. -/
def nth (schedule : Schedule) (i : Nat) : Frame := ⟨.ofNat i, schedule.timeAt (.ofNat i)⟩

/-- The time at which a renderer is asked for frame `i`. -/
def drawTime (schedule : Schedule) (i : Nat) : Float32 := (schedule.nth i).time.toFloat32

variable {schedule : Schedule} {i : Nat}

theorem toNat_ofNat_of_le_total (le : i ≤ schedule.total.toNat) : (UInt64.ofNat i).toNat = i :=
  UInt64.toNat_ofNat_of_lt' (Nat.lt_of_le_of_lt le schedule.total.toNat_lt)

theorem frame?_of_lt (lt : i < schedule.total.toNat) :
    schedule.frame? (.ofNat i) = some (schedule.nth i) := by
  have below : UInt64.ofNat i < schedule.total := by
    rw [UInt64.lt_iff_toNat_lt, toNat_ofNat_of_le_total (Nat.le_of_lt lt)]
    exact lt
  rw [frame?, if_pos below]
  rfl

theorem frame?_total : schedule.frame? (.ofNat schedule.total.toNat) = none := by
  rw [frame?, UInt64.ofNat_toNat, if_neg (UInt64.lt_irrefl _)]

theorem take_frames (le : i ≤ schedule.total.toNat) :
    schedule.frames.take i = (List.range i).map schedule.nth := by
  rw [frames, firstFrames, Nat.min_self, ← List.map_take, List.take_range, Nat.min_eq_left le]
  rfl

end Schedule

/-! ### What a renderer makes of a schedule -/

namespace Renderer

/-- What has become of a renderer that has drawn the first frames. -/
def after (r : Renderer σ) (schedule : Schedule) (s : σ) : Nat → σ
  | 0 => s
  | i + 1 => (r.draw (r.after schedule s i) (schedule.drawTime i)).2

/-- What a renderer makes of frame `i` when it has drawn the frames before. -/
def item (r : Renderer σ) (schedule : Schedule) (s : σ) (i : Nat) : Item :=
  (Sequence.drawn r (r.after schedule s i) (schedule.nth i)).1.map (⟨schedule.nth i, ·⟩)

/-- A renderer that remembers the times at which it was asked to draw. -/
def recorded (r : Renderer σ) : Renderer (σ × List Float32) where
  dimensions s := r.dimensions s.1
  draw s time := ((r.draw s.1 time).1, (r.draw s.1 time).2, s.2 ++ [time])

variable {r : Renderer σ} {schedule : Schedule} {s : σ} {i : Nat}

/-- An image is checked against the size that the renderer states after the draw. -/
theorem drawn_eq (r : Renderer σ) (s : σ) (frame : Frame) :
    Sequence.drawn r s frame =
      ((r.draw s frame.time.toFloat32).1.bind
        (Sequence.checked frame.index (r.dimensions (r.draw s frame.time.toFloat32).2)),
      (r.draw s frame.time.toFloat32).2) := by
  unfold Sequence.drawn
  rcases r.draw s frame.time.toFloat32 with ⟨_ | _, _⟩ <;> rfl

theorem drawn_after (r : Renderer σ) (schedule : Schedule) (s : σ) (i : Nat) :
    (Sequence.drawn r (r.after schedule s i) (schedule.nth i)).2 = r.after schedule s (i + 1) := by
  rw [drawn_eq]
  rfl

/-- An item is the image that is drawn at the time of its frame, or a fault: that of the draw, or
that the image has not the size that the renderer states then. -/
theorem item_eq (r : Renderer σ) (schedule : Schedule) (s : σ) (i : Nat) :
    r.item schedule s i =
      (r.draw (r.after schedule s i) (schedule.drawTime i)).1.bind fun p =>
        let stated := r.dimensions (r.after schedule s (i + 1))
        if p.size = stated then .ok ⟨schedule.nth i, p⟩
        else .error (.readback (.frameSize (.ofNat i) p.width p.height stated.1 stated.2)) := by
  rw [item, drawn_eq, after, Schedule.drawTime]
  rcases r.draw (r.after schedule s i) (schedule.nth i).time.toFloat32 with ⟨_ | p, next⟩
  · rfl
  · by_cases size : p.size = r.dimensions next
    · simp only [Except.bind, Sequence.checked, size, if_true, Except.map]
    · simp only [Except.bind, Sequence.checked, size, if_false, Except.map]
      rfl

/-- A frame is handed out just if it was drawn and has the size that the renderer states then. -/
theorem item_eq_ok_iff {f : RenderedFrame} :
    r.item schedule s i = .ok f ↔
      f.frame = schedule.nth i ∧
        (r.draw (r.after schedule s i) (schedule.drawTime i)).1 = .ok f.pixels ∧
        f.pixels.size = r.dimensions (r.after schedule s (i + 1)) := by
  rcases f with ⟨frame, pixels⟩
  rw [item_eq]
  rcases (r.draw (r.after schedule s i) (schedule.drawTime i)).1 with _ | p
  · simp [Except.bind]
  · by_cases size : p.size = r.dimensions (r.after schedule s (i + 1))
    · simp only [Except.bind, size, if_true, Except.ok.injEq, RenderedFrame.mk.injEq,
        eq_comm (a := frame)]
      constructor
      · rintro ⟨rfl, rfl⟩
        exact ⟨rfl, rfl, size⟩
      · rintro ⟨rfl, rfl, -⟩
        exact ⟨rfl, rfl⟩
    · simp only [Except.bind, size, if_false, reduceCtorEq, false_iff]
      rintro ⟨-, ok, same⟩
      obtain rfl := Except.ok.inj ok
      exact size same

/-- A fault is handed out just if it is that of the draw, or if the image has another size than the
renderer states then. -/
theorem item_eq_error_iff {fault : Fault} :
    r.item schedule s i = .error fault ↔
      (r.draw (r.after schedule s i) (schedule.drawTime i)).1 = .error fault ∨
        ∃ p, (r.draw (r.after schedule s i) (schedule.drawTime i)).1 = .ok p ∧
          p.size ≠ r.dimensions (r.after schedule s (i + 1)) ∧
          fault = .readback (.frameSize (.ofNat i) p.width p.height
            (r.dimensions (r.after schedule s (i + 1))).1
            (r.dimensions (r.after schedule s (i + 1))).2) := by
  rw [item_eq]
  rcases (r.draw (r.after schedule s i) (schedule.drawTime i)).1 with _ | p
  · simp [Except.bind]
  · by_cases size : p.size = r.dimensions (r.after schedule s (i + 1))
    · simp [Except.bind, size]
    · simp [Except.bind, size, eq_comm]

theorem after_recorded (times : List Float32) :
    r.recorded.after schedule (s, times) i =
      (r.after schedule s i, times ++ (List.range i).map schedule.drawTime) := by
  induction i with
  | zero => simp [after]
  | succ i ih =>
    rw [after, ih, List.range_succ]
    simp [recorded, after]

theorem item_recorded (r : Renderer σ) (schedule : Schedule) (s : σ) (times : List Float32)
    (i : Nat) :
    r.recorded.item schedule (s, times) i = r.item schedule s i := by
  rw [item, item, after_recorded, drawn_eq, drawn_eq]
  rfl

end Renderer

/-! ### One question -/

namespace Sequence

/-- A sequence that has handed out the first `k` frames. -/
def underway (r : Renderer σ) (schedule : Schedule) (s : σ) (k : Nat) : Sequence σ :=
  ⟨r.after schedule s k, schedule, .ofNat k, false⟩

/-- A sequence that has handed out the first `k` frames and then came to its end, for which it drew
the first `drawn` frames. -/
def stopped (r : Renderer σ) (schedule : Schedule) (s : σ) (k drawn : Nat) : Sequence σ :=
  ⟨r.after schedule s drawn, schedule, .ofNat k, true⟩

variable {r : Renderer σ} {schedule : Schedule} {s : σ} {k : Nat}

theorem next_underway_ok {f : RenderedFrame} (lt : k < schedule.total.toNat)
    (ok : r.item schedule s k = .ok f) :
    ∃ events, (underway r schedule s k).next r =
      (some (.ok f, events), underway r schedule s (k + 1)) := by
  have same := Renderer.drawn_after r schedule s k
  rw [Renderer.item] at ok
  rcases h : drawn r (r.after schedule s k) (schedule.nth k) with ⟨_ | p, next⟩
  · simp [h, Except.map] at ok
  · rw [h] at ok same
    obtain rfl := Except.ok.inj ok
    refine ⟨(underway r schedule s k).progress.reports (.ofNat k + 1), ?_⟩
    simp only [Sequence.next, underway, Schedule.frame?_of_lt lt, h, ← same, Bool.false_eq_true,
      if_false, UInt64.ofNat_add]
    rfl

theorem next_underway_error {fault : Fault} (lt : k < schedule.total.toNat)
    (error : r.item schedule s k = .error fault) :
    (underway r schedule s k).next r =
      (some (.error fault, []), stopped r schedule s k (k + 1)) := by
  have same := Renderer.drawn_after r schedule s k
  rw [Renderer.item] at error
  rcases h : drawn r (r.after schedule s k) (schedule.nth k) with ⟨_ | p, next⟩
  · rw [h] at error same
    obtain rfl := Except.error.inj error
    simp only [Sequence.next, underway, stopped, Schedule.frame?_of_lt lt, h, ← same,
      Bool.false_eq_true, if_false]
  · simp [h, Except.map] at error

theorem next_underway_total (r : Renderer σ) (schedule : Schedule) (s : σ) :
    (underway r schedule s schedule.total.toNat).next r =
      (none, stopped r schedule s schedule.total.toNat schedule.total.toNat) := by
  simp only [Sequence.next, underway, stopped, Schedule.frame?_total, Bool.false_eq_true, if_false]

theorem next_stopped {drawn : Nat} :
    (stopped r schedule s k drawn).next r = (none, stopped r schedule s k drawn) := by
  simp only [Sequence.next, stopped, if_true]

/-- A frame that is handed out has the number of frames before it for its index, and is counted. -/
theorem next_eq_ok {t u : Sequence σ} {f : RenderedFrame} {events : List Log.Event}
    (answer : t.next r = (some (.ok f, events), u)) :
    f.frame.index = t.completed ∧ u.completed.toNat = t.completed.toNat + 1 := by
  unfold Sequence.next Schedule.frame? at answer
  split_ifs at answer with finished lt
  · simp at answer
  · dsimp only at answer
    split at answer
    · simp only [Prod.mk.injEq, Option.some.injEq, Except.ok.injEq] at answer
      obtain ⟨⟨rfl, -⟩, rfl⟩ := answer
      have below := UInt64.lt_iff_toNat_lt.1 lt
      have bound := t.schedule.total.toNat_lt
      refine ⟨rfl, ?_⟩
      rw [UInt64.toNat_add]
      simp
      omega
    · simp at answer
  · simp at answer

/-! ### Many questions -/

/-- The answers to the first questions, and the sequence after them. -/
def answers (r : Renderer σ) (t : Sequence σ) : Nat → List (Option Item) × Sequence σ
  | 0 => ([], t)
  | n + 1 => ((answers r t n).1 ++ [((answers r t n).2.next r).1.map Prod.fst],
      ((answers r t n).2.next r).2)

/-- The frames are what the renderer makes of the first frames of the schedule. -/
def Handed (r : Renderer σ) (schedule : Schedule) (s : σ) (frames : List RenderedFrame) : Prop :=
  frames.map Except.ok = (List.range frames.length).map (r.item schedule s)

/-- What a sequence has answered, and what it is then. -/
inductive Course (r : Renderer σ) (schedule : Schedule) (s : σ) :
    List (Option Item) → Sequence σ → Prop
  | underway {frames : List RenderedFrame} (handed : Handed r schedule s frames)
      (le : frames.length ≤ schedule.total.toNat) :
      Course r schedule s (frames.map (some ∘ .ok)) (.underway r schedule s frames.length)
  | complete {frames : List RenderedFrame} (rest : Nat) (handed : Handed r schedule s frames)
      (all : frames.length = schedule.total.toNat) :
      Course r schedule s (frames.map (some ∘ .ok) ++ List.replicate (rest + 1) none)
        (.stopped r schedule s frames.length frames.length)
  | failed {frames : List RenderedFrame} {fault : Fault} (rest : Nat)
      (handed : Handed r schedule s frames) (lt : frames.length < schedule.total.toNat)
      (error : r.item schedule s frames.length = .error fault) :
      Course r schedule s
        (frames.map (some ∘ .ok) ++ some (.error fault) :: List.replicate rest none)
        (.stopped r schedule s frames.length (frames.length + 1))

theorem Handed.snoc {frames : List RenderedFrame} {f : RenderedFrame}
    (handed : Handed r schedule s frames) (ok : r.item schedule s frames.length = .ok f) :
    Handed r schedule s (frames ++ [f]) := by
  rw [Handed, List.map_append, handed, List.length_append, List.length_singleton,
    List.range_succ, List.map_append]
  simp [ok]

theorem Handed.item {frames : List RenderedFrame} (handed : Handed r schedule s frames) {i : Nat}
    (lt : i < frames.length) : r.item schedule s i = .ok frames[i] := by
  have same := congrArg (fun items : List Item => items[i]?) handed
  simpa [lt, eq_comm] using same

/-- Frames that were handed out were drawn, and have the size that the renderer stated then. -/
theorem Handed.drawn {frames : List RenderedFrame} (handed : Handed r schedule s frames) {i : Nat}
    (lt : i < frames.length) :
    (r.draw (r.after schedule s i) (schedule.drawTime i)).1 = .ok frames[i].pixels ∧
      frames[i].pixels.size = r.dimensions (r.after schedule s (i + 1)) :=
  (Renderer.item_eq_ok_iff.1 (handed.item lt)).2

theorem Handed.frame {frames : List RenderedFrame} (handed : Handed r schedule s frames) {i : Nat}
    (lt : i < frames.length) : frames[i].frame = schedule.nth i :=
  (Renderer.item_eq_ok_iff.1 (handed.item lt)).1

theorem Handed.frames {frames : List RenderedFrame} (handed : Handed r schedule s frames)
    (le : frames.length ≤ schedule.total.toNat) :
    frames.map RenderedFrame.frame = schedule.frames.take frames.length := by
  rw [Schedule.take_frames le]
  refine List.ext_getElem (by simp) fun i lt _ => ?_
  rw [List.length_map] at lt
  rw [List.getElem_map, List.getElem_map, List.getElem_range, handed.frame lt]

theorem Handed.indices {frames : List RenderedFrame} (handed : Handed r schedule s frames)
    (le : frames.length ≤ schedule.total.toNat) :
    frames.map (·.frame.index.toNat) = List.range frames.length := by
  refine List.ext_getElem (by simp) fun i lt _ => ?_
  rw [List.length_map] at lt
  rw [List.getElem_map, List.getElem_range, handed.frame lt]
  exact Schedule.toNat_ofNat_of_le_total (Nat.le_trans (Nat.le_of_lt lt) le)

theorem Course.next {given : List (Option Item)} {t : Sequence σ}
    (course : Course r schedule s given t) :
    Course r schedule s (given ++ [(t.next r).1.map Prod.fst]) (t.next r).2 := by
  cases course with
  | @underway frames handed le =>
    rcases Nat.lt_or_eq_of_le le with lt | all
    · rcases item : r.item schedule s frames.length with fault | f
      · rw [next_underway_error lt item]
        exact .failed 0 handed lt item
      · obtain ⟨events, answer⟩ := next_underway_ok lt item
        rw [answer]
        have le : (frames ++ [f]).length ≤ schedule.total.toNat := by
          rw [List.length_append]
          exact lt
        have course := Course.underway (handed.snoc item) le
        rw [List.map_append, List.length_append] at course
        exact course
    -- the end is found out by asking for a frame behind the last
    · rw [all, next_underway_total]
      have course := Course.complete 0 handed all
      rw [all] at course
      exact course
  | @complete frames rest handed all =>
    rw [next_stopped, List.append_assoc, Option.map_none, ← List.replicate_succ']
    exact .complete (rest + 1) handed all
  | @failed frames fault rest handed lt error =>
    rw [next_stopped, List.append_assoc, List.cons_append, Option.map_none,
      ← List.replicate_succ']
    exact .failed (rest + 1) handed lt error

/-- What the three kinds of courses have in common. -/
theorem Course.shape {given : List (Option Item)} {t : Sequence σ}
    (course : Course r schedule s given t) :
    ∃ (frames : List RenderedFrame) (fault : Option Fault) (rest : Nat),
      given = frames.map (some ∘ .ok) ++ fault.toList.map (some ∘ .error) ++
          List.replicate rest none ∧
        Handed r schedule s frames ∧ frames.length ≤ schedule.total.toNat ∧
        (∀ e, fault = some e →
          frames.length < schedule.total.toNat ∧ r.item schedule s frames.length = .error e) ∧
        (fault = none → 0 < rest → frames.length = schedule.total.toNat) ∧
        t.renderer = r.after schedule s (frames.length + fault.toList.length) ∧
        t.completed = .ofNat frames.length := by
  cases course with
  | @underway frames handed le =>
    exact ⟨frames, none, 0, by simp, handed, le, nofun, nofun, rfl, rfl⟩
  | @complete frames rest handed all =>
    exact ⟨frames, none, rest + 1, by simp, handed, Nat.le_of_eq all, nofun, fun _ _ => all, rfl,
      rfl⟩
  | @failed frames fault rest handed lt error =>
    refine ⟨frames, some fault, rest, by simp, handed, Nat.le_of_lt lt, ?_, nofun, rfl, rfl⟩
    rintro _ ⟨rfl⟩
    exact ⟨lt, error⟩

/-- Every sequence has a course, however often it is asked. -/
theorem course_answers (r : Renderer σ) (schedule : Schedule) (s : σ) (n : Nat) :
    Course r schedule s (answers r (start s schedule) n).1 (answers r (start s schedule) n).2 := by
  induction n with
  | zero => exact @Course.underway σ r schedule s [] rfl (Nat.zero_le _)
  | succ n ih => exact ih.next

/-! ### Sequences over a recorded renderer -/

/-- The sequence without the record of its renderer. -/
def forget (t : Sequence (σ × List Float32)) : Sequence σ :=
  ⟨t.renderer.1, t.schedule, t.completed, t.finished⟩

theorem Handed.of_recorded {frames : List RenderedFrame} {times : List Float32}
    (handed : Handed r.recorded schedule (s, times) frames) : Handed r schedule s frames := by
  rw [Handed, handed]
  exact List.map_congr_left fun i _ => Renderer.item_recorded r schedule s times i

theorem next_forget (r : Renderer σ) (t : Sequence (σ × List Float32)) :
    t.forget.next r = ((t.next r.recorded).1, (t.next r.recorded).2.forget) := by
  unfold Sequence.next
  by_cases finished : t.finished
  · simp [forget, finished]
  · simp only [forget, finished]
    rcases t.schedule.frame? t.completed with _ | frame
    · rfl
    · simp only [Renderer.drawn_eq, Renderer.recorded, Bool.false_eq_true, if_false]
      rcases (r.draw t.renderer.1 frame.time.toFloat32).1.bind
        (checked frame.index (r.dimensions (r.draw t.renderer.1 frame.time.toFloat32).2)) with
        _ | _ <;> rfl

theorem answers_forget (r : Renderer σ) (t : Sequence (σ × List Float32)) (n : Nat) :
    answers r t.forget n = ((answers r.recorded t n).1, (answers r.recorded t n).2.forget) := by
  induction n with
  | zero => rfl
  | succ n ih => rw [answers, ih, next_forget, answers]

/-- However often a sequence is asked, it answers with the first frames of its schedule in order,
then with a fault or, if these are all frames, with none, and with nothing from then on.  The fault
is that of the draw, or that the image has the wrong size.  The sequence draws once for each of
these items, at the time of the frame, and counts the frames. -/
theorem answers_start (r : Renderer σ) (schedule : Schedule) (s : σ) (n : Nat) :
    let course := answers r.recorded (start (s, []) schedule) n
    answers r (start s schedule) n = (course.1, course.2.forget) ∧
    ∃ (frames : List RenderedFrame) (fault : Option Fault) (rest : Nat),
      course.1 = frames.map (some ∘ .ok) ++ fault.toList.map (some ∘ .error) ++
          List.replicate rest none ∧
        frames.map RenderedFrame.frame = schedule.frames.take frames.length ∧
        frames.map (·.frame.index.toNat) = List.range frames.length ∧
        (∀ e, fault = some e →
          frames.length < schedule.total.toNat ∧ r.item schedule s frames.length = .error e ∧
          ((r.draw (r.after schedule s frames.length) (schedule.drawTime frames.length)).1 =
              .error e ∨
            ∃ p, (r.draw (r.after schedule s frames.length)
                (schedule.drawTime frames.length)).1 = .ok p ∧
              p.size ≠ r.dimensions (r.after schedule s (frames.length + 1)) ∧
              e = .readback (.frameSize (.ofNat frames.length) p.width p.height
                (r.dimensions (r.after schedule s (frames.length + 1))).1
                (r.dimensions (r.after schedule s (frames.length + 1))).2))) ∧
        (fault = none → 0 < rest → frames.length = schedule.total.toNat) ∧
        course.2.renderer.2 =
          (List.range (frames.length + fault.toList.length)).map schedule.drawTime ∧
        (∀ i (lt : i < frames.length),
          (r.draw (r.after schedule s i) (schedule.drawTime i)).1 = .ok frames[i].pixels ∧
            frames[i].pixels.size = r.dimensions (r.after schedule s (i + 1))) ∧
        course.2.completed.toNat = frames.length := by
  intro course
  refine ⟨answers_forget r (start (s, []) schedule) n, ?_⟩
  obtain ⟨frames, fault, rest, given, handed, le, failed, complete, renderer, completed⟩ :=
    (course_answers r.recorded schedule (s, []) n).shape
  have handed := handed.of_recorded
  refine ⟨frames, fault, rest, given, handed.frames le, handed.indices le, fun e some => ?_,
    complete, ?_, fun i lt => handed.drawn lt, ?_⟩
  · obtain ⟨lt, error⟩ := failed e some
    rw [Renderer.item_recorded] at error
    exact ⟨lt, error, Renderer.item_eq_error_iff.1 error⟩
  · rw [renderer, Renderer.after_recorded, List.nil_append]
  · rw [completed]
    exact Schedule.toNat_ofNat_of_le_total le

end Sequence

end ShaderFilm.Render
