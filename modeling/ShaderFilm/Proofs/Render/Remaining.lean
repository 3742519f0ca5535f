import ShaderFilm.Proofs.Render.Sequence

/-!
# The number of items that are left

A question hands out a frame, hands out a fault, or finds the sequence at its end (`asked_next`).
None of these takes the number of frames beyond that of the schedule (`Within.next`), and each item
takes at least one from the greatest number of items that may still come
(`Within.sizeHint_of_item`).  So no renderer makes a sequence hand out more than that
(`Within.count_le`), and one that never fails makes it hand out as much (`Within.count_eq`).
-/

namespace ShaderFilm.Render

namespace Sequence

variable {σ : Type}

/-! ### What a question does -/

/-- What a sequence can answer when it is asked, and what it is then. -/
inductive Asked (t : Sequence σ) : Option (Item × List Log.Event) × Sequence σ → Prop
  | ended (atEnd : t.finished = true ∨ ¬ t.completed < t.schedule.total) :
      Asked t (none, { t with finished := true })
  | failed (running : t.finished = false) (lt : t.completed < t.schedule.total) (fault : Fault)
      (renderer : σ) :
      Asked t (some (.error fault, []), { t with renderer, finished := true })
  | drawn (running : t.finished = false) (lt : t.completed < t.schedule.total) (f : RenderedFrame)
      (renderer : σ) :
      Asked t (some (.ok f, t.progress.reports (t.completed + 1)),
        { t with renderer, completed := t.completed + 1 })

theorem asked_next (r : Renderer σ) (t : Sequence σ) : Asked t (t.next r) := by
  unfold Sequence.next Schedule.frame?
  split_ifs with finished lt
  · have same : { t with finished := true } = t := by rw [← finished]
    have ended : Asked t (none, { t with finished := true }) := .ended (.inl finished)
    rwa [same] at ended
  · have running : t.finished = false := Bool.eq_false_iff.2 finished
    dsimp only
    split
    · exact .drawn running lt _ _
    · exact .failed running lt _ _
  · exact .ended (.inr lt)

/-- A sequence that has not handed out more frames than there are. -/
def Within (t : Sequence σ) : Prop := t.completed ≤ t.schedule.total

theorem within_start (schedule : Schedule) (s : σ) : Within (start s schedule) :=
  UInt64.le_iff_toNat_le.2 (Nat.zero_le _)

/-- A frame that is drawn can be counted. -/
theorem toNat_completed_succ {t : Sequence σ} (lt : t.completed < t.schedule.total) :
    (t.completed + 1).toNat = t.completed.toNat + 1 := by
  have below := UInt64.lt_iff_toNat_lt.1 lt
  have bound := t.schedule.total.toNat_lt
  rw [UInt64.toNat_add]
  simp
  omega

theorem Within.next {t : Sequence σ} (within : Within t) (r : Renderer σ) :
    Within (t.next r).2 := by
  have asked := asked_next r t
  generalize t.next r = answer at asked ⊢
  cases asked with
  | ended => exact within
  | failed => exact within
  | drawn running lt =>
    refine UInt64.le_iff_toNat_le.2 ?_
    have below := UInt64.lt_iff_toNat_lt.1 lt
    rw [toNat_completed_succ lt]
    exact below

/-! ### The greatest number of items -/

variable {t u : Sequence σ} {r : Renderer σ} {x : Item × List Log.Event}

theorem Within.sizeHint_eq (within : Within t) :
    t.sizeHint.2 = if t.finished then 0 else t.schedule.total.toNat - t.completed.toNat := by
  unfold Sequence.sizeHint
  split
  · rfl
  · exact UInt64.toNat_sub_of_le _ _ within

theorem sizeHint_of_finished (finished : t.finished = true) : t.sizeHint.2 = 0 := by
  rw [Sequence.sizeHint, if_pos finished]

/-- Nothing is left at the end. -/
theorem Within.sizeHint_of_end (within : Within t) (answer : t.next r = (none, u)) :
    t.sizeHint.2 = 0 := by
  have asked := asked_next r t
  rw [answer] at asked
  cases asked with
  | ended atEnd =>
    rcases atEnd with finished | all
    · exact sizeHint_of_finished finished
    · have above := mt UInt64.lt_iff_toNat_lt.2 all
      rw [within.sizeHint_eq]
      split <;> omega

theorem Within.sizeHint_of_frame (within : Within t) {f : RenderedFrame} {events : List Log.Event}
    (answer : t.next r = (some (.ok f, events), u)) : t.sizeHint.2 = u.sizeHint.2 + 1 := by
  have after := within.next r
  have asked := asked_next r t
  rw [answer] at asked after
  cases asked with
  | drawn running lt =>
    have below := UInt64.lt_iff_toNat_lt.1 lt
    rw [within.sizeHint_eq, after.sizeHint_eq, running, toNat_completed_succ lt]
    simp only [Bool.false_eq_true, if_false]
    omega

/-- A fault counts as an item, and it is the last one. -/
theorem Within.sizeHint_of_fault (within : Within t) {fault : Fault} {events : List Log.Event}
    (answer : t.next r = (some (.error fault, events), u)) :
    0 < t.sizeHint.2 ∧ u.sizeHint.2 = 0 := by
  have asked := asked_next r t
  rw [answer] at asked
  cases asked with
  | failed running lt =>
    have below := UInt64.lt_iff_toNat_lt.1 lt
    refine ⟨?_, sizeHint_of_finished rfl⟩
    rw [within.sizeHint_eq, running]
    exact Nat.sub_pos_of_lt below

/-- An item takes something from what may still come. -/
theorem Within.sizeHint_of_item (within : Within t)
    (answer : t.next r = (some x, u)) : u.sizeHint.2 < t.sizeHint.2 := by
  obtain ⟨item, events⟩ := x
  cases item with
  | ok f =>
    rw [within.sizeHint_of_frame answer]
    exact Nat.lt_succ_self _
  | error fault =>
    obtain ⟨positive, none⟩ := within.sizeHint_of_fault answer
    rw [none]
    exact positive

/-! ### The number of items -/

/-- Whatever a renderer does from now on, it does not make the sequence hand out more. -/
theorem Within.count_le (within : Within t) (r : Renderer σ) : (t.count r).1 ≤ t.sizeHint.2 := by
  fun_induction count r t with
  | case1 t u answer => exact Nat.zero_le _
  | case2 t x events u answer _ n more last counted ih =>
    have after := within.next r
    rw [answer] at after
    have inner := ih after
    rw [counted] at inner
    exact Nat.lt_of_le_of_lt inner (within.sizeHint_of_item answer)

/-- From now on the renderer makes the sequence answer with no fault: it draws every image, and each
one has the size that it states then. -/
def NeverFails (r : Renderer σ) (t : Sequence σ) : Prop :=
  ∀ n fault, some (.error fault) ∉ (answers r t n).1

/-- The answers of a sequence are its first one and those of the sequence after it. -/
theorem answers_succ (r : Renderer σ) (t : Sequence σ) (n : Nat) :
    answers r t (n + 1) = ((t.next r).1.map Prod.fst :: (answers r (t.next r).2 n).1,
      (answers r (t.next r).2 n).2) := by
  induction n with
  | zero => rfl
  | succ n ih =>
    rw [answers, ih, answers]
    rfl

/-- It is enough that no image whatsoever fails. -/
theorem neverFails_of_draws (draws : ∀ state time, ∃ p, (r.draw state time).1 = .ok p ∧
    p.size = r.dimensions (r.draw state time).2) (t : Sequence σ) : NeverFails r t := by
  have given (u : Sequence σ) (fault : Fault) :
      (u.next r).1.map Prod.fst ≠ some (.error fault) := by
    unfold Sequence.next
    split
    · simp
    · split
      · simp
      · next frame _ =>
        obtain ⟨p, drawn, size⟩ := draws u.renderer frame.time.toFloat32
        have accepted : checked frame.index (r.dimensions (r.draw u.renderer _).2) p = .ok p :=
          if_pos size
        rw [Renderer.drawn_eq, drawn, Except.bind, accepted]
        simp
  intro n fault mem
  induction n with
  | zero => cases mem
  | succ n ih =>
    rw [answers] at mem
    rcases List.mem_append.1 mem with before | now
    · exact ih before
    · exact given _ fault (List.mem_singleton.1 now).symm

theorem NeverFails.next (never : NeverFails r t) (answer : t.next r = (some x, u)) :
    NeverFails r u := by
  intro n fault mem
  refine never (n + 1) fault ?_
  rw [answers_succ, answer]
  exact List.mem_cons_of_mem _ mem

/-- A renderer that never fails makes the sequence hand out as much as it may. -/
theorem Within.count_eq (within : Within t) (never : NeverFails r t) :
    (t.count r).1 = t.sizeHint.2 := by
  fun_induction count r t with
  | case1 t u answer => exact (within.sizeHint_of_end answer).symm
  | case2 t x events u answer _ n more last counted ih =>
    have after := within.next r
    rw [answer] at after
    have inner := ih after (never.next answer)
    rw [counted] at inner
    cases x with
    | ok f =>
      rw [within.sizeHint_of_frame answer, ← inner]
    | error fault =>
      refine absurd ?_ (never 1 fault)
      rw [answers_succ, answer]
      exact List.mem_cons_self

/-! ### The end -/

theorem finished_next (finished : t.finished = true) (r : Renderer σ) :
    (t.next r).2.finished = true := by
  rw [Sequence.next, if_pos finished]
  exact finished

/-- A sequence that has answered with a fault or with nothing is at its end. -/
theorem finished_of_mem_answers {n : Nat} {answer : Option Item} (mem : answer ∈ (answers r t n).1)
    (last : ∀ f, answer ≠ some (.ok f)) : (answers r t n).2.finished = true := by
  induction n with
  | zero => cases mem
  | succ n ih =>
    rw [answers] at mem ⊢
    rcases List.mem_append.1 mem with before | now
    · exact finished_next (ih before) r
    · rw [List.mem_singleton] at now
      have asked := asked_next r (answers r t n).2
      generalize (answers r t n).2.next r = next at asked now ⊢
      cases asked with
      | ended => rfl
      | failed => rfl
      | drawn running lt f renderer => exact absurd now (last f)

theorem within_answers (r : Renderer σ) (schedule : Schedule) (s : σ) (n : Nat) :
    Within (answers r (start s schedule) n).2 := by
  induction n with
  | zero => exact within_start schedule s
  | succ n ih => exact ih.next r

theorem schedule_answers (r : Renderer σ) (t : Sequence σ) (n : Nat) :
    (answers r t n).2.schedule = t.schedule := by
  induction n with
  | zero => rfl
  | succ n ih =>
    rw [answers]
    have asked := asked_next r (answers r t n).2
    generalize (answers r t n).2.next r = next at asked ⊢
    cases asked <;> exact ih

/-- However often a sequence was asked, it has not handed out more frames than there are, so the
greatest number of items that may still come is a difference of numbers.  No renderer makes the
sequence hand out more than that from then on, and one that never fails makes it hand out as much.
Once it has answered with a fault or with nothing, the number is zero. -/
theorem sizeHint_answers (r : Renderer σ) (schedule : Schedule) (s : σ) (n : Nat) :
    let given := (answers r (start s schedule) n).1
    let t := (answers r (start s schedule) n).2
    t.completed ≤ schedule.total ∧
      t.sizeHint.2 = (if t.finished then 0 else schedule.total.toNat - t.completed.toNat) ∧
      (∀ later : Renderer σ, (t.count later).1 ≤ t.sizeHint.2 ∧
        (NeverFails later t → (t.count later).1 = t.sizeHint.2)) ∧
      ∀ answer ∈ given, (answer = none ∨ ∃ fault, answer = some (.error fault)) →
        t.sizeHint = (0, 0) := by
  intro given t
  have within : Within t := within_answers r schedule s n
  have same : t.schedule = schedule := schedule_answers r (start s schedule) n
  refine ⟨?_, ?_, fun later => ⟨within.count_le later, within.count_eq⟩, ?_⟩
  · rw [← same]
    exact within
  · rw [← same]
    exact within.sizeHint_eq
  · intro answer mem last
    have finished : t.finished = true := finished_of_mem_answers mem fun f frame => by
      simp [frame] at last
    rw [Sequence.sizeHint, if_pos finished]

/-- Two of three frames are left after the first, and a renderer that does not fail draws both. -/
theorem sizeHint_answers_three :
    let p : Pixels := .filled 2 1 ⟨0, 0, 0, 255⟩ (by decide)
    let r : Renderer Unit := ⟨fun _ => (2, 1), fun _ _ => (.ok p, ())⟩
    let t := (answers r (start () ⟨0, 25, 3⟩) 1).2
    NeverFails r t ∧ t.sizeHint.2 = 2 ∧ (t.count r).1 = 2 := by
  intro p r t
  have never : NeverFails r t := neverFails_of_draws (fun _ _ => ⟨_, rfl, rfl⟩) t
  obtain ⟨-, left, count, -⟩ := sizeHint_answers r ⟨0, 25, 3⟩ () 1
  have two : t.sizeHint.2 = 2 := left
  exact ⟨never, two, ((count r).2 never).trans two⟩

end Sequence

end ShaderFilm.Render
