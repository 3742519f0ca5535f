import ShaderFilm.Render.Pixels
import ShaderFilm.Render.Progress
import ShaderFilm.Render.Schedule

/-!
# Sequences of frames

A `Sequence` asks a renderer for the frames of a schedule, one after the other.  Every frame is
drawn once and in order.  The first fault is handed out and ends the sequence, and nothing is drawn
after the end.
-/

namespace ShaderFilm.Render

/-- Anything that draws an image for a time.  Its state may change with every image, and with it
the size that it states. -/
structure Renderer (σ : Type) where
  dimensions : σ → UInt32 × UInt32
  draw : σ → Float32 → Except Fault Pixels × σ

/-- A frame with its image. -/
structure RenderedFrame where
  frame : Frame
  pixels : Pixels

/-- What a sequence hands out. -/
abbrev Item := Except Fault RenderedFrame

/-- A sequence of frames that is under way. -/
structure Sequence (σ : Type) where
  renderer : σ
  schedule : Schedule
  /-- How many frames are done; it is the index of the next. -/
  completed : UInt64
  finished : Bool

namespace Sequence

variable {σ : Type}

/-- A sequence that has not begun. -/
def start (renderer : σ) (schedule : Schedule) : Sequence σ := ⟨renderer, schedule, 0, false⟩

/-- Reports are made once for every second of video. -/
def progress (s : Sequence σ) : Progress :=
  .ofInterval s.schedule.total s.schedule.fps.toUInt64

/-- An image, refused if it has not the expected size. -/
def checked (index : UInt64) (expected : UInt32 × UInt32) (p : Pixels) : Except Fault Pixels :=
  if p.size = expected then .ok p
  else .error (.readback (.frameSize index p.width p.height expected.1 expected.2))

/-- The image of a frame, with the renderer as it is left behind. -/
def drawn (r : Renderer σ) (state : σ) (frame : Frame) : Except Fault Pixels × σ :=
  match r.draw state frame.time.toFloat32 with
  | (.error fault, state) => (.error fault, state)
  | (.ok p, state) => (checked frame.index (r.dimensions state) p, state)

/-- The next item, the reports on it, and the sequence after it; nothing at the end. -/
def next (r : Renderer σ) (s : Sequence σ) : Option (Item × List Log.Event) × Sequence σ :=
  if s.finished then (none, s)
  else
    match s.schedule.frame? s.completed with
    | none => (none, { s with finished := true })
    | some frame =>
      match drawn r s.renderer frame with
      | (.ok pixels, renderer) =>
        let completed := s.completed + 1
        (some (.ok ⟨frame, pixels⟩, s.progress.reports completed), { s with renderer, completed })
      | (.error fault, renderer) =>
        (some (.error fault, []), { s with renderer, finished := true })

/-- The least and the greatest number of items that may still come. -/
def sizeHint (s : Sequence σ) : Nat × Nat :=
  if s.finished then (0, 0) else (0, (s.schedule.total - s.completed).toNat)

/-- A bound on how often the sequence can be asked before it is at its end. -/
def remaining (s : Sequence σ) : Nat :=
  if s.finished then 0 else s.schedule.total.toNat - s.completed.toNat + 1

theorem remaining_next_lt {r : Renderer σ} {s t : Sequence σ} {x : Item × List Log.Event}
    (h : s.next r = (some x, t)) : t.remaining < s.remaining := by
  unfold next at h
  by_cases hf : s.finished
  · simp [hf] at h
  · simp only [hf, Bool.false_eq_true, if_false] at h
    unfold Schedule.frame? at h
    by_cases hlt : s.completed < s.schedule.total
    · simp only [hlt, if_true] at h
      have hn : s.completed.toNat < s.schedule.total.toNat := UInt64.lt_iff_toNat_lt.1 hlt
      have hb : s.schedule.total.toNat < 2 ^ 64 := s.schedule.total.toNat_lt
      have hs : (s.completed + 1).toNat = s.completed.toNat + 1 := by
        rw [UInt64.toNat_add]
        simp
        omega
      split at h
      · simp only [Prod.mk.injEq] at h
        obtain ⟨-, rfl⟩ := h
        simp only [remaining, hf, Bool.false_eq_true, if_false, hs]
        omega
      · simp only [Prod.mk.injEq] at h
        obtain ⟨-, rfl⟩ := h
        simp [remaining, hf]
    · simp [hlt] at h

/-- The number of items that are left, faults among them, and the sequence at its end. -/
def count (r : Renderer σ) (s : Sequence σ) : Nat × List Log.Event × Sequence σ :=
  match h : s.next r with
  | (none, t) => (0, [], t)
  | (some (_, events), t) =>
    have := remaining_next_lt h
    let (n, more, u) := count r t
    (n + 1, events ++ more, u)
termination_by s.remaining

end Sequence

end ShaderFilm.Render
