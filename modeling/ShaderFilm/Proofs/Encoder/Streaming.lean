import Mathlib.Data.List.Basic
import ShaderFilm.Proofs.Encoder.Feeding
import ShaderFilm.Proofs.Render.Sequence

/-!
# Encoding while rendering

The sequence that draws frames and the encoder that writes them count the same frames
(`run_tallies`).  A run sees of a source only what it hands out (`run_map`), so a renderer may
remember when it was asked to draw.  What is sent of an item that is taken is the image that was
drawn for it (`flatMap_items`).  If all items are taken, each frame was drawn once
(`run_ofRenderer_all`); otherwise nothing is drawn beyond the item that is not taken
(`run_ofRenderer_until`).
-/

namespace ShaderFilm.Encoder

open ShaderFilm.Files (Path Tree)
open ShaderFilm.Render (Item RenderedFrame Renderer Schedule Sequence)

variable {σ τ υ ρ : Type}

/-! ### Counters -/

theorem feed_tallies (host : Host σ) (d : Renderer ρ) (r : Running σ) (t : Sequence ρ)
    (agree : r.framesWritten = t.completed.toNat) :
    ∀ x ∈ (feed host (.ofRenderer d) r t).tallies, x.index.toNat = x.written := by
  fun_induction feed host (Source.ofRenderer d) r t with
  | case1 => simp
  | case2 => simp
  | case3 r t f events u next tally fault after answer =>
    obtain ⟨index, -⟩ := Sequence.next_eq_ok next
    simp [tally, index, agree]
  | case4 r t f events u next tally after answer smaller fed ih =>
    -- both count the frame, so they agree on what is left of the source
    obtain ⟨index, counted⟩ := Sequence.next_eq_ok next
    obtain ⟨q, rfl⟩ := Running.eq_of_writeFrame_eq_none answer
    have agree' : r.framesWritten + 1 = u.completed.toNat := by rw [agree, counted]
    intro x mem
    rcases List.mem_cons.1 mem with rfl | mem
    · simp [tally, index, agree]
    · exact ih agree' x mem

theorem run_tallies (host : Host σ) (c : Config) (d : Renderer ρ) (schedule : Schedule) (s : ρ)
    (files : Tree) :
    ∀ x ∈ (run host (.ofRenderer d) c (.start s schedule) files).tallies,
      x.index.toNat = x.written := by
  rcases started : Running.spawn host c files with ⟨fault | r, left⟩
  · simp [run, started]
  · have fresh := (spawn_fresh started).2.1
    have agree := feed_tallies host d r (.start s schedule) fresh
    rcases fed : (feed host (.ofRenderer d) r (.start s schedule)).fault with _ | fault
    · rwa [(run_of_fault_eq_none started fed).2.2.2.1]
    · rwa [(run_of_fault_eq_some started fed).2.2.2.1]

/-! ### Sources that hand out the same -/

/-- The outcome, where the source that is left behind is seen through a map. -/
def Outcome.mapSource (g : τ → υ) (o : Outcome τ) : Outcome υ :=
  ⟨o.result, o.files, o.log, o.deeds, o.tallies, g o.source⟩

def Fed.mapSource (g : τ → υ) (fed : Fed σ τ) : Fed σ υ :=
  ⟨fed.fault, fed.encoder, fed.log, fed.tallies, g fed.source⟩

section Map

variable {host : Host σ} {a : Source τ} {b : Source υ} {g : τ → υ}

theorem feed_map (same : ∀ t, b.next (g t) = ((a.next t).1, g (a.next t).2)) (r : Running σ)
    (t : τ) : feed host b r (g t) = (feed host a r t).mapSource g := by
  fun_induction feed host a r t with
  | case1 r t u next fault log after finished =>
    have next' := same t
    rw [next] at next'
    rw [feed_end next', finished]
    rfl
  | case2 r t fault events u next =>
    have next' := same t
    rw [next] at next'
    rw [feed_fault next']
    rfl
  | case3 r t f events u next tally fault after answer =>
    have next' := same t
    rw [next] at next'
    rw [feed_unwritten next' answer]
    rfl
  | case4 r t f events u next tally after answer smaller fed ih =>
    have next' := same t
    rw [next] at next'
    rw [feed_written next' answer, ih]
    rfl

theorem run_map (same : ∀ t, b.next (g t) = ((a.next t).1, g (a.next t).2)) (c : Config) (t : τ)
    (files : Tree) : run host b c (g t) files = (run host a c t files).mapSource g := by
  unfold run
  rcases Running.spawn host c files with ⟨fault | r, left⟩
  · rfl
  · dsimp only
    rw [feed_map same]
    rcases fed : feed host a r t with ⟨_ | fault, r, log, tallies, u⟩ <;> rfl

end Map

/-! ### Frames of a renderer -/

/-- The first items that a renderer makes of a schedule. -/
def items (d : Renderer ρ) (schedule : Schedule) (s : ρ) (n : Nat) : List Item :=
  (List.range n).map (d.item schedule s)

/-- The bytes of the image that a renderer draws at the time of frame `i`, if it does not fail. -/
def drawnBytes (d : Renderer ρ) (schedule : Schedule) (s : ρ) (i : Nat) : List UInt8 :=
  match (d.draw (d.after schedule s i) (schedule.drawTime i)).1 with
  | .ok p => p.bytes
  | .error _ => []

section Renderer

variable {host : Host σ} {c : Config} {d : Renderer ρ} {schedule : Schedule} {s : ρ} {n : Nat}

theorem length_items (d : Renderer ρ) (schedule : Schedule) (s : ρ) (n : Nat) :
    (items d schedule s n).length = n := by
  simp [items]

theorem items_succ :
    items d schedule s (n + 1) = items d schedule s n ++ [d.item schedule s n] := by
  simp [items, List.range_succ]

theorem items_recorded (times : List Float32) :
    items d.recorded schedule (s, times) n = items d schedule s n :=
  List.map_congr_left fun i _ => Renderer.item_recorded d schedule s times i

/-- A frame that is handed out is sent as it was drawn. -/
theorem itemBytes_item {i : Nat} {f : RenderedFrame} (frame : d.item schedule s i = .ok f) :
    itemBytes (d.item schedule s i) = drawnBytes d schedule s i := by
  obtain ⟨-, drawn, -⟩ := Renderer.item_eq_ok_iff.1 frame
  rw [frame, drawnBytes, drawn]
  rfl

theorem flatMap_items {p q : σ} (takes : TakesAll host c p (items d schedule s n) q) :
    (items d schedule s n).flatMap itemBytes =
      (List.range n).flatMap (drawnBytes d schedule s) := by
  rw [items, List.flatMap_map]
  refine List.flatMap_congr fun i mem => ?_
  obtain ⟨f, frame⟩ := takes.exists_eq_ok _ (List.mem_map_of_mem mem)
  exact itemBytes_item frame

/-- A sequence hands out the first items of its renderer, as long as they are frames. -/
theorem gives_items (le : n ≤ schedule.total.toNat)
    (ok : ∀ i < n, ∃ f, d.item schedule s i = .ok f) :
    (Source.ofRenderer d).Gives (.start s schedule) (items d schedule s n)
      (.underway d schedule s n) := by
  induction n with
  | zero => exact .nil _
  | succ n ih =>
    obtain ⟨f, frame⟩ := ok n (Nat.lt_succ_self n)
    obtain ⟨events, next⟩ := Sequence.next_underway_ok le frame
    have gives := ih (Nat.le_of_succ_le le) fun i lt => ok i (Nat.lt_succ_of_lt lt)
    rw [items_succ, frame]
    exact gives.snoc next

theorem items_take {k : Nat} (le : k ≤ n) :
    (items d schedule s n).take k = items d schedule s k := by
  rw [items, ← List.map_take, List.take_range, Nat.min_eq_left le]
  rfl

/-- Of the items of a renderer either all are taken or one is the first that is not. -/
theorem items_taken_or_fails (host : Host σ) (c : Config) (p : σ) (d : Renderer ρ)
    (schedule : Schedule) (s : ρ) (n : Nat) :
    (∃ q, TakesAll host c p (items d schedule s n) q) ∨
      ∃ k < n, ∃ q fault, TakesAll host c p (items d schedule s k) q ∧
        Fails host c q k (d.item schedule s k) fault := by
  rcases takesAll_or_fails host c p 0 (items d schedule s n) with
    all | ⟨taken, item, rest, q, fault, split, before, fails⟩
  · exact .inl all
  · have lt : taken.length < n := by
      have same := congrArg List.length split
      rw [length_items, List.length_append, List.length_cons] at same
      omega
    have first : items d schedule s taken.length = taken := by
      rw [← items_take (Nat.le_of_lt lt), split, List.take_left]
    have failed : d.item schedule s taken.length = item := by
      have same := congrArg (fun all : List Item => all[taken.length]?) split
      simpa [items, lt] using same
    refine .inr ⟨taken.length, lt, q, fault, ?_, ?_⟩
    · rwa [first]
    · rwa [failed, ← Nat.zero_add taken.length]

/-! ### Runs over a renderer -/

variable {files left : Tree} {r : Running σ} {q : σ}

theorem gives_recorded {p : σ} (le : n ≤ schedule.total.toNat)
    (takes : TakesAll host c p (items d schedule s n) q) :
    (Source.ofRenderer d.recorded).Gives (.start (s, []) schedule) (items d schedule s n)
      (.underway d.recorded schedule (s, []) n) := by
  rw [← items_recorded []]
  refine gives_items le fun i lt => ?_
  rw [Renderer.item_recorded]
  exact takes.exists_eq_ok _ (List.mem_map_of_mem (List.mem_range.2 lt))

theorem run_ofRenderer_all (started : Running.spawn host c files = (.ok r, left))
    (takes : TakesAll host c r.program (items d schedule s schedule.total.toNat) q) :
    let o := run host (.ofRenderer d.recorded) c (.start (s, []) schedule) files
    ((host.ending q).status = 0 →
        ∃ v, o.result = .ok v ∧ v.frames = schedule.total.toNat) ∧
      ((host.ending q).status ≠ 0 → o.result = .error (exitFault host q)) ∧
      sentBytes o.deeds =
        (List.range schedule.total.toNat).flatMap (drawnBytes d schedule s) ∧
      o.tallies.length = schedule.total.toNat ∧
      o.source.renderer.2 = (List.range schedule.total.toNat).map schedule.drawTime := by
  have atEnd := Sequence.next_underway_total d.recorded schedule (s, [])
  have outcome := run_all started (gives_recorded (Nat.le_refl _) takes) atEnd takes
  rw [length_items, flatMap_items takes] at outcome
  obtain ⟨ok, error, sent, tallied, last⟩ := outcome
  refine ⟨ok, error, sent, tallied, ?_⟩
  rw [last, Sequence.stopped, Renderer.after_recorded]
  rfl

theorem run_ofRenderer_until {k : Nat} {fault : Fault}
    (started : Running.spawn host c files = (.ok r, left)) (lt : k < schedule.total.toNat)
    (takes : TakesAll host c r.program (items d schedule s k) q)
    (fails : Fails host c q k (d.item schedule s k) fault) :
    let o := run host (.ofRenderer d.recorded) c (.start (s, []) schedule) files
    o.result = .error fault ∧
      (∃ part, part <+: itemBytes (d.item schedule s k) ∧
        sentBytes o.deeds = (List.range k).flatMap (drawnBytes d schedule s) ++ part) ∧
      o.tallies.length = k + (d.item schedule s k).isOk.toNat ∧
      o.source.renderer.2 = (List.range (k + 1)).map schedule.drawTime := by
  have gives := gives_recorded (Nat.le_of_lt lt) takes
  obtain ⟨events, u, next, times⟩ : ∃ events u,
      Sequence.next d.recorded (.underway d.recorded schedule (s, []) k) =
        (some (d.item schedule s k, events), u) ∧
      u.renderer = d.recorded.after schedule (s, []) (k + 1) := by
    have same := Renderer.item_recorded d schedule s [] k
    rcases item : d.item schedule s k with refused | f
    · exact ⟨_, _, Sequence.next_underway_error lt (same.trans item), rfl⟩
    · obtain ⟨events, answer⟩ := Sequence.next_underway_ok lt (same.trans item)
      exact ⟨events, _, answer, rfl⟩
  have fails' : Fails host c q (items d schedule s k).length (d.item schedule s k) fault := by
    rwa [length_items]
  obtain ⟨error, last, tallied, sent⟩ := run_until started gives next takes fails'
  rw [length_items] at tallied
  rw [flatMap_items takes] at sent
  refine ⟨error, sent, tallied, ?_⟩
  rw [last, times, Renderer.after_recorded]
  rfl

end Renderer

/-- The encode of the frames of a renderer either has all of them taken, and then ends as the
program does, or ends at the first frame that is not drawn or not taken.  It draws no frame beyond
that one and sends no byte beyond that frame, and at every frame the sequence and the encoder have
counted the same.  An item is the image that was drawn at the time of its frame, if that has the
size which the renderer states, and the bytes that are sent are those of the images. -/
theorem run_ofRenderer_outcome (host : Host σ) (c : Config) (d : Renderer ρ) (schedule : Schedule)
    (s : ρ) (files left : Tree) (r : Running σ)
    (started : Running.spawn host c files = (.ok r, left)) :
    let o := run host (.ofRenderer d.recorded) c (.start (s, []) schedule) files
    let total := schedule.total.toNat
    run host (.ofRenderer d) c (.start s schedule) files = o.mapSource Sequence.forget ∧
      (∀ x ∈ o.tallies, x.index.toNat = x.written) ∧
      (∀ i, d.item schedule s i =
        (d.draw (d.after schedule s i) (schedule.drawTime i)).1.bind fun p =>
          let stated := d.dimensions (d.after schedule s (i + 1))
          if p.size = stated then .ok ⟨schedule.nth i, p⟩
          else .error (.readback (.frameSize (.ofNat i) p.width p.height stated.1 stated.2))) ∧
      (∀ q, TakesAll host c r.program (items d schedule s total) q →
        ((host.ending q).status = 0 → ∃ v, o.result = .ok v ∧ v.frames = total) ∧
          ((host.ending q).status ≠ 0 → o.result = .error (exitFault host q)) ∧
          sentBytes o.deeds = (List.range total).flatMap (drawnBytes d schedule s) ∧
          o.tallies.length = total ∧
          o.source.renderer.2 = (List.range total).map schedule.drawTime) ∧
      (∀ k < total, ∀ q fault, TakesAll host c r.program (items d schedule s k) q →
        Fails host c q k (d.item schedule s k) fault →
        o.result = .error fault ∧
          (∃ part, part <+: itemBytes (d.item schedule s k) ∧
            sentBytes o.deeds = (List.range k).flatMap (drawnBytes d schedule s) ++ part) ∧
          o.tallies.length = k + (d.item schedule s k).isOk.toNat ∧
          o.source.renderer.2 = (List.range (k + 1)).map schedule.drawTime) ∧
      ((∃ q, TakesAll host c r.program (items d schedule s total) q) ∨
        ∃ k < total, ∃ q fault, TakesAll host c r.program (items d schedule s k) q ∧
          Fails host c q k (d.item schedule s k) fault) := by
  intro o total
  refine ⟨?_, run_tallies host c d.recorded schedule (s, []) files, d.item_eq schedule s,
    fun q takes => ?_, fun k lt q fault takes fails => ?_, ?_⟩
  · have same : ∀ t, (Source.ofRenderer d).next t.forget =
        (((Source.ofRenderer d.recorded).next t).1,
          ((Source.ofRenderer d.recorded).next t).2.forget) := Sequence.next_forget d
    exact run_map same c (Sequence.start (s, []) schedule) files
  · exact run_ofRenderer_all started takes
  · exact run_ofRenderer_until started lt takes fails
  · exact items_taken_or_fails ..

/-- A renderer whose images differ.  A program that takes them all gets each of them, and one that
quits after the first has been sent a part of the second. -/
theorem run_ofRenderer_quitting :
    let p (n : Nat) : Render.Pixels := .filled 2 2 ⟨.ofNat n, 0, 0, 255⟩ (by decide)
    let d : Renderer Nat := ⟨fun _ => (2, 2), fun n _ => (.ok (p n), n + 1)⟩
    let schedule : Schedule := ⟨0, 1, 3⟩
    let whole := run (.quitting 3 ⟨0, [], ⟨[]⟩⟩) (.ofRenderer d.recorded) .small
      (.start (0, []) schedule) ⟨[]⟩
    let broken := run (.quitting 1 ⟨1, [], ⟨[]⟩⟩) (.ofRenderer d.recorded) .small
      (.start (0, []) schedule) ⟨[]⟩
    (∃ v, whole.result = .ok v ∧ v.frames = 3) ∧
      sentBytes whole.deeds = (p 0).bytes ++ (p 1).bytes ++ (p 2).bytes ∧
      broken.result = .error (.failure 1 "") ∧
      (∃ part, part <+: (p 1).bytes ∧ sentBytes broken.deeds = (p 0).bytes ++ part) ∧
      broken.source.renderer.2 = [schedule.drawTime 0, schedule.drawTime 1] := by
  intro p d schedule whole broken
  obtain ⟨-, -, -, all, -, -⟩ :=
    run_ofRenderer_outcome (.quitting 3 ⟨0, [], ⟨[]⟩⟩) .small d schedule 0 ⟨[]⟩ _ _ rfl
  obtain ⟨-, -, -, -, fails, -⟩ :=
    run_ofRenderer_outcome (.quitting 1 ⟨1, [], ⟨[]⟩⟩) .small d schedule 0 ⟨[]⟩ _ _ rfl
  have takesAll : TakesAll (.quitting 3 ⟨0, [], ⟨[]⟩⟩) .small 3 (items d schedule 0 3) 0 :=
    .cons ⟨_, rfl, rfl, rfl⟩ (.cons ⟨_, rfl, rfl, rfl⟩ (.cons ⟨_, rfl, rfl, rfl⟩ (.nil 0)))
  have takes : TakesAll (.quitting 1 ⟨1, [], ⟨[]⟩⟩) .small 1 (items d schedule 0 1) 0 :=
    .cons ⟨_, rfl, rfl, rfl⟩ (.nil 0)
  have quits : Fails (.quitting 1 ⟨1, [], ⟨[]⟩⟩) .small 0 1 (d.item schedule 0 1)
      (.failure 1 "") :=
    @Fails.quit _ (.quitting 1 ⟨1, [], ⟨[]⟩⟩) .small 0 1 ⟨schedule.nth 1, p 1⟩ 1 0 rfl rfl nofun
  obtain ⟨ok, -, sent, -, -⟩ := all 0 takesAll
  obtain ⟨error, part, -, times⟩ := fails 1 (by decide) 0 _ takes quits
  exact ⟨ok rfl, sent, error, part, times⟩

end ShaderFilm.Encoder
