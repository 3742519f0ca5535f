import ShaderFilm.Encoder.Running
import ShaderFilm.Render.Sequence

/-!
# From frames to a video file

The frames of a source are written to one encoder in order.  The first fault ends the run, and then
whatever the encoder has made of the output is removed; an encoder that could not be started leaves
the output alone.
-/

namespace ShaderFilm.Encoder

open ShaderFilm.Files (Path Tree)
open ShaderFilm.Render (Item Renderer Sequence)

/-! ### Sources of frames -/

/-- Where frames come from.  A source can be asked only finitely often before it is at its end. -/
structure Source (τ : Type) where
  next : τ → Option (Item × List Log.Event) × τ
  remaining : τ → Nat
  remaining_next_lt : ∀ {t u : τ} {x : Item × List Log.Event},
    next t = (some x, u) → remaining u < remaining t

namespace Source

/-- The items of a list. -/
def ofList : Source (List Item) where
  next
    | [] => (none, [])
    | item :: rest => (some (item, []), rest)
  remaining := List.length
  remaining_next_lt {t u x} h := by
    cases t with
    | nil => simp at h
    | cons item rest =>
      simp only [Prod.mk.injEq] at h
      simp [← h.2]

/-- The frames that a renderer draws. -/
def ofRenderer {σ : Type} (r : Renderer σ) : Source (Sequence σ) where
  next := Sequence.next r
  remaining := Sequence.remaining
  remaining_next_lt h := Sequence.remaining_next_lt h

end Source

/-! ### Runs -/

/-- A video that was encoded. -/
structure Summary where
  frames : Nat
  /-- The size of the output file. -/
  bytes : Nat
  profile : Profile
  output : Path
  deriving DecidableEq, Repr

/-- What the two counters of frames say when a frame is handed over: its index, and the number of
frames that the encoder has written.  The feeding of an encoder asserts that they agree. -/
structure Tally where
  index : UInt64
  written : Nat
  deriving DecidableEq, Repr

/-- How a run went. -/
structure Outcome (τ : Type) where
  result : Except Fault Summary
  files : Tree
  log : List Log.Event
  deeds : List Deed
  /-- The counters at each frame that was handed over. -/
  tallies : List Tally
  /-- The source as it is left behind. -/
  source : τ

variable {σ τ : Type}

/-- What is known when the frames have been fed to an encoder. -/
structure Fed (σ τ : Type) where
  /-- The fault that ended it, if there was one. -/
  fault : Option Fault
  encoder : Running σ
  log : List Log.Event
  tallies : List Tally
  source : τ

/-- Writes the frames of a source to an encoder and finishes it.  After a fault the encoder has been
waited for as well. -/
def feed (host : Host σ) (source : Source τ) (r : Running σ) (t : τ) : Fed σ τ :=
  match h : source.next t with
  | (none, u) =>
    let (fault, log, r) := r.finish host
    ⟨fault, r, log, [], u⟩
  | (some (.error fault, events), u) => ⟨some (.render fault), r.kill host, events, [], u⟩
  | (some (.ok item, events), u) =>
    let tally : Tally := ⟨item.frame.index, r.framesWritten⟩
    match r.writeFrame host item.pixels with
    | (some fault, r) => ⟨some fault, r.kill host, events, [tally], u⟩
    | (none, r) =>
      have := source.remaining_next_lt h
      let fed := feed host source r u
      { fed with log := events ++ fed.log, tallies := tally :: fed.tallies }
termination_by source.remaining t

/-- The event that tells of a complete video. -/
def completeEvent (s : Summary) : Log.Event :=
  ⟨.info, "encode complete", [("frames", toString s.frames), ("bytes", toString s.bytes),
    ("output", s.output.toString)]⟩

/-- The event that tells of an output that was removed. -/
def removedEvent (path : Path) : Log.Event :=
  ⟨.info, "removed partial output", [("path", path.toString)]⟩

/-- The event that tells of an output that stays. -/
def leftoverEvent (path : Path) (fault : Files.Fault) : Log.Event :=
  ⟨.warn, "failed to remove partial output",
    [("path", path.toString), ("error", fault.message)]⟩

/-- Removes what was made of an output. -/
def discard (files : Tree) (path : Path) : Tree × List Log.Event × List Deed :=
  if files.exists? path then
    match files.remove path with
    | .ok files => (files, [removedEvent path], [.remove path])
    | .error fault => (files, [leftoverEvent path fault], [.remove path])
  else (files, [], [])

/-- Encodes the frames of a source. -/
def run (host : Host σ) (source : Source τ) (c : Config) (t : τ) (files : Tree) : Outcome τ :=
  match Running.spawn host c files with
  | (.error fault, files) => ⟨.error fault, files, [], [], [], t⟩
  | (.ok r, _) =>
    let fed := feed host source r t
    let log := Running.startEvent c :: fed.log
    match fed.fault with
    | none =>
      let bytes := (fed.encoder.files.size? c.output).getD 0
      let summary : Summary := ⟨fed.encoder.framesWritten, bytes, c.profile, c.output⟩
      ⟨.ok summary, fed.encoder.files, log ++ [completeEvent summary], fed.encoder.deeds,
        fed.tallies, fed.source⟩
    | some fault =>
      let (files, events, deeds) := discard fed.encoder.files c.output
      ⟨.error fault, files, log ++ events, fed.encoder.deeds ++ deeds, fed.tallies, fed.source⟩

end ShaderFilm.Encoder
