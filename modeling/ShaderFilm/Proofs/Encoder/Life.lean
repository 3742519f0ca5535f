import ShaderFilm.Proofs.Encoder.Feeding

/-!
# The life of an encoder

After its start an encoder is written to any number of times, and then it is finished, aborted or
dropped.  `Orderly` says that its input, its diagnostics and the mark of having been waited for
agree, and that no program is killed that was waited for; every operation keeps it.  An encoder
whose input is closed does not change any more (`writeAll_closed`).  `spawned_life` puts this
together for every row of frames and every program.
-/

namespace ShaderFilm.Encoder

open ShaderFilm.Files (Tree)
open ShaderFilm.Render (Pixels)

variable {σ : Type}

/-- The ways in which the life of an encoder ends. -/
inductive Farewell where
  | finish
  | abort
  | drop
  deriving DecidableEq, Repr

namespace Running

/-- Writes frames one after the other, whatever becomes of them, and lists what became of each. -/
def writeAll (host : Host σ) (r : Running σ) : List Pixels → List (Option Fault) × Running σ
  | [] => ([], r)
  | p :: rest =>
    let (fault, after) := r.writeFrame host p
    let (faults, last) := after.writeAll host rest
    (fault :: faults, last)

/-- Ends the life of an encoder.  What is left when it was finished or aborted is dropped then. -/
def leave (host : Host σ) (r : Running σ) : Farewell → Option Fault × Running σ
  | .finish =>
    let (fault, _, after) := r.finish host
    (fault, after.kill host)
  | .abort => (none, (r.kill host).kill host)
  | .drop => (none, r.kill host)

variable {host : Host σ} {r : Running σ}

theorem writeAll_cons (host : Host σ) (r : Running σ) (p : Pixels) (rest : List Pixels) :
    r.writeAll host (p :: rest) =
      ((r.writeFrame host p).1 :: ((r.writeFrame host p).2.writeAll host rest).1,
        ((r.writeFrame host p).2.writeAll host rest).2) := rfl

/-! ### One frame -/

theorem writeFrame_size {p : Pixels} (other : p.size ≠ (r.config.width, r.config.height)) :
    r.writeFrame host p =
      (some (.invalidConfig (.frameSize p.width p.height r.config.width r.config.height)), r) := by
  rw [writeFrame, if_pos other]

theorem writeFrame_closed {p : Pixels} (closed : r.inputOpen = false)
    (size : p.size = (r.config.width, r.config.height)) :
    r.writeFrame host p = (some (.write r.framesWritten .inputClosed), r) := by
  rw [writeFrame, if_neg (· size), closed]
  rfl

theorem config_reap (host : Host σ) (r : Running σ) : (r.reap host).2.2.config = r.config := by
  simp only [reap]
  rw [closeInput_eq]

/-- A frame that is not written is not counted. -/
theorem framesWritten_of_writeFrame_eq_some {p : Pixels} {fault : Fault} {after : Running σ}
    (answer : r.writeFrame host p = (some fault, after)) :
    after.framesWritten = r.framesWritten := by
  unfold writeFrame at answer
  split_ifs at answer
  · rw [← (Prod.mk.inj answer).2]
  · rw [← (Prod.mk.inj answer).2]
  · split at answer
    · simp at answer
    · dsimp only at answer
      split_ifs at answer
      · rw [← (Prod.mk.inj answer).2, framesWritten_reap]
      · rw [← (Prod.mk.inj answer).2, framesWritten_reap]
      · rw [← (Prod.mk.inj answer).2]

theorem config_writeFrame (host : Host σ) (r : Running σ) (p : Pixels) :
    (r.writeFrame host p).2.config = r.config := by
  unfold writeFrame
  split_ifs
  · rfl
  · rfl
  · rcases host.write r.program p.bytes with ⟨_ | ⟨count, fault⟩, q⟩
    · rfl
    · dsimp only
      split_ifs
      · exact config_reap host _
      · exact config_reap host _
      · rfl

/-! ### What is in order about every encoder -/

/-- The three marks of an encoder agree, it counts as reaped if and only if its program was waited
for, and no program is killed once it was waited for. -/
structure Orderly (r : Running σ) : Prop where
  diagnosticsLeft : r.diagnosticsLeft = r.inputOpen
  reaped : r.reaped = !r.inputOpen
  waited : r.reaped = true ↔ .wait ∈ r.deeds
  kills : r.deeds.Pairwise fun earlier later => earlier = .wait → later ≠ .kill

theorem Orderly.live (orderly : r.Orderly) (isOpen : r.inputOpen = true) : r.Live :=
  ⟨isOpen, orderly.diagnosticsLeft.trans isOpen, by rw [orderly.reaped, isOpen]; rfl⟩

theorem Orderly.send (orderly : r.Orderly) (q : σ) (n : Nat) (bytes : List UInt8) :
    Orderly { r with program := q, framesWritten := n, deeds := r.deeds ++ [.send bytes] } where
  diagnosticsLeft := orderly.diagnosticsLeft
  reaped := orderly.reaped
  waited := by simp [orderly.waited]
  kills := by
    rw [List.pairwise_append]
    exact ⟨orderly.kills, List.pairwise_singleton _ _, by simp⟩

/-- The encoder when its input has been closed and its program has come to an end in the way that
`last` tells. -/
def ended (r : Running σ) (files : Tree) (last : List Deed) : Running σ :=
  { r with
    inputOpen := false
    diagnosticsLeft := false
    reaped := true
    files
    deeds := r.deeds ++ .closeInput :: last }

theorem Live.reap {r : Running σ} (live : r.Live) :
    (r.reap host).2.2 = r.ended (host.ending r.program).files [.wait] := by
  simp [Running.reap, closeInput, ended, live.inputOpen, live.reaped]

theorem Live.kill {r : Running σ} (live : r.Live) :
    r.kill host = r.ended (host.killed r.program) [.kill, .wait] := by
  simp [Running.kill, closeInput, ended, live.inputOpen, live.reaped]

/-- A program that was not waited for may be killed and is waited for then. -/
theorem Orderly.ended (orderly : r.Orderly) (live : r.Live) {last : List Deed}
    (waits : .wait ∈ last)
    (kills : last.Pairwise fun earlier later => earlier = .wait → later ≠ .kill) (files : Tree) :
    (r.ended files last).Orderly where
  diagnosticsLeft := rfl
  reaped := rfl
  waited := by simp [Running.ended, waits]
  kills := by
    have unwaited : .wait ∉ r.deeds := by
      rw [← orderly.waited, live.reaped]
      decide
    show (r.deeds ++ .closeInput :: last).Pairwise _
    refine List.pairwise_append.2 ⟨orderly.kills, List.pairwise_cons.2 ⟨by simp, kills⟩, ?_⟩
    rintro _ before _ _ rfl
    exact absurd before unwaited

theorem Orderly.reap_closed (orderly : r.Orderly) (closed : r.inputOpen = false) :
    r.reap host = ((host.ending r.program).status, "", r) := by
  have left : r.diagnosticsLeft = false := orderly.diagnosticsLeft.trans closed
  have reaped : r.reaped = true := by rw [orderly.reaped, closed]; rfl
  rcases r with ⟨c, p, isOpen, left, n, reaped, files, deeds⟩
  simp_all [Running.reap, closeInput]

theorem Orderly.kill_closed (orderly : r.Orderly) (closed : r.inputOpen = false) :
    r.kill host = r := by
  rw [Running.kill, if_pos]
  rw [orderly.reaped, closed]
  rfl

theorem Orderly.reap (orderly : r.Orderly) : (r.reap host).2.2.Orderly := by
  cases isOpen : r.inputOpen with
  | true =>
    have live := orderly.live isOpen
    rw [live.reap]
    exact orderly.ended live (List.mem_singleton.2 rfl) (List.pairwise_singleton _ _) _
  | false =>
    rw [orderly.reap_closed isOpen]
    exact orderly

theorem Orderly.kill (orderly : r.Orderly) : (r.kill host).Orderly := by
  cases isOpen : r.inputOpen with
  | true =>
    have live := orderly.live isOpen
    rw [live.kill]
    exact orderly.ended live (by simp) (by simp) _
  | false =>
    rw [orderly.kill_closed isOpen]
    exact orderly

theorem Orderly.writeFrame (orderly : r.Orderly) (p : Pixels) :
    (r.writeFrame host p).2.Orderly := by
  unfold Running.writeFrame
  split_ifs
  · exact orderly
  · exact orderly
  · rcases host.write r.program p.bytes with ⟨_ | ⟨count, fault⟩, q⟩
    · exact orderly.send q _ p.bytes
    · have sent := orderly.send q r.framesWritten (p.bytes.take count)
      dsimp only
      split_ifs
      · exact sent.reap
      · exact sent.reap
      · exact sent

theorem Orderly.leave (orderly : r.Orderly) (farewell : Farewell) :
    (r.leave host farewell).2.Orderly ∧ (r.leave host farewell).2.reaped = true := by
  cases farewell with
  | finish =>
    have finished : (r.finish host).2.2.Orderly := by
      rw [finish_encoder]
      exact orderly.reap
    exact ⟨finished.kill, reaped_kill host _⟩
  | abort => exact ⟨orderly.kill.kill, reaped_kill host _⟩
  | drop => exact ⟨orderly.kill, reaped_kill host _⟩

/-! ### Rows of frames -/

theorem Orderly.writeAll (orderly : r.Orderly) (frames : List Pixels) :
    (r.writeAll host frames).2.Orderly := by
  induction frames generalizing r with
  | nil => exact orderly
  | cons p rest ih => exact ih (orderly.writeFrame p)

theorem config_writeAll (host : Host σ) (r : Running σ) (frames : List Pixels) :
    (r.writeAll host frames).2.config = r.config := by
  induction frames generalizing r with
  | nil => rfl
  | cons p rest ih =>
    rw [writeAll_cons, ih]
    exact config_writeFrame host r p

/-- The frames that were written are those that came to no fault. -/
theorem framesWritten_writeAll (host : Host σ) (r : Running σ) (frames : List Pixels) :
    (r.writeAll host frames).2.framesWritten =
      r.framesWritten + (r.writeAll host frames).1.countP Option.isNone := by
  induction frames generalizing r with
  | nil => rfl
  | cons p rest ih =>
    rw [writeAll_cons, ih]
    rcases answer : r.writeFrame host p with ⟨_ | fault, after⟩
    · obtain ⟨q, rfl⟩ := eq_of_writeFrame_eq_none answer
      simp
      omega
    · rw [framesWritten_of_writeFrame_eq_some answer]
      simp

/-- An encoder whose input is closed stays as it is. -/
theorem writeAll_closed (closed : r.inputOpen = false) (frames : List Pixels) :
    (r.writeAll host frames).2 = r := by
  induction frames with
  | nil => rfl
  | cons p rest ih =>
    have same : (r.writeFrame host p).2 = r := by
      by_cases size : p.size = (r.config.width, r.config.height)
      · rw [writeFrame_closed closed size]
      · rw [writeFrame_size size]
    rw [writeAll_cons, same]
    exact ih

theorem leave_closed (orderly : r.Orderly) (closed : r.inputOpen = false) (farewell : Farewell) :
    (r.leave host farewell).2 = r := by
  have killed : r.kill host = r := orderly.kill_closed closed
  cases farewell with
  | finish =>
    show (r.finish host).2.2.kill host = r
    rw [finish_encoder, orderly.reap_closed closed]
    exact killed
  | abort =>
    show (r.kill host).kill host = r
    rw [killed, killed]
  | drop => exact killed

/-- An encoder that was waited for reports the exit status of its program once more, without what
the program said. -/
theorem finish_closed (orderly : r.Orderly) (closed : r.inputOpen = false) :
    (r.leave host .finish).1 = if (host.ending r.program).status = 0 then none
      else some (.failure (host.ending r.program).status "") := by
  simp only [leave, finish, orderly.reap_closed closed]
  by_cases status : (host.ending r.program).status = 0
  · rw [if_neg (· status), if_pos status]
  · rw [if_pos status, if_neg status]

/-! ### Broken pipes -/

/-- The encoder takes no more frames: it refuses those of the right size with the number `n`, stays
as it is whatever is done to it, and reports `status` when it is finished. -/
structure Spent (host : Host σ) (n : Nat) (status : ExitStatus) (r : Running σ) : Prop where
  closed : r.inputOpen = false
  refuses : ∀ p : Pixels, p.size = (r.config.width, r.config.height) →
    (r.writeFrame host p).1 = some (.write n .inputClosed)
  stays : ∀ frames, (r.writeAll host frames).2 = r
  leaves : ∀ farewell, (r.leave host farewell).2 = r
  reports : (r.leave host .finish).1 = if status = 0 then none else some (.failure status "")

theorem Orderly.spent (orderly : r.Orderly) (closed : r.inputOpen = false) :
    r.Spent host r.framesWritten (host.ending r.program).status where
  closed := closed
  refuses p size := by rw [writeFrame_closed closed size]
  stays := writeAll_closed closed
  leaves := leave_closed orderly closed
  reports := finish_closed orderly closed

/-- A frame that meets a broken pipe is sent in part, and the encoder is spent then. -/
theorem Orderly.writeFrame_broken (orderly : r.Orderly) (isOpen : r.inputOpen = true) {p : Pixels}
    (size : p.size = (r.config.width, r.config.height)) {count : Nat} {q : σ}
    (broken : host.write r.program p.bytes = (.part count .brokenPipe, q)) :
    ∃ after, r.writeFrame host p =
        (some (if (host.ending q).status = 0 then .write r.framesWritten .brokenPipe
          else exitFault host q), after) ∧
      after.config = r.config ∧ after.framesWritten = r.framesWritten ∧
      sentBytes after.deeds = sentBytes r.deeds ++ p.bytes.take count ∧
      after.Spent host r.framesWritten (host.ending q).status := by
  have live := orderly.live isOpen
  have taken : (r.tookPart (p.bytes.take count) q).Live := ⟨live.1, live.2, live.3⟩
  have answer := writeFrame_quit live size broken
  rw [taken.reap] at answer
  have after : (r.writeFrame host p).2.Orderly := orderly.writeFrame p
  rw [answer] at after
  refine ⟨_, answer, rfl, rfl, ?_, after.spent rfl⟩
  show sentBytes ((r.tookPart (p.bytes.take count) q).deeds ++ [.closeInput, .wait]) = _
  rw [sentBytes_append, sentBytes_tookPart]
  exact List.append_nil _

end Running

/-! ### Whole lives -/

section Life

variable {host : Host σ} {c : Config} {files left : Tree} {r : Running σ}

theorem spawn_orderly (started : Running.spawn host c files = (.ok r, left)) : r.Orderly := by
  rw [spawn_eq started]
  exact ⟨rfl, rfl, by simp, List.pairwise_singleton _ _⟩

/-- Of an encoder that was started and given any frames: it counts those that were written, and no
other; a frame of a wrong size is refused and changes nothing; the first frame that meets a broken
pipe leaves a spent encoder behind; and at the end of its life, the program has been waited for and
was not killed after that. -/
theorem spawned_life (started : Running.spawn host c files = (.ok r, left))
    (frames : List Pixels) :
    let s := (r.writeAll host frames).2
    s.framesWritten = (r.writeAll host frames).1.countP Option.isNone ∧
      (∀ p fault after, s.writeFrame host p = (some fault, after) →
        after.framesWritten = s.framesWritten) ∧
      (∀ p, p.size ≠ (c.width, c.height) → s.writeFrame host p =
        (some (.invalidConfig (.frameSize p.width p.height c.width c.height)), s)) ∧
      (∀ p count q, s.inputOpen = true → p.size = (c.width, c.height) →
        host.write s.program p.bytes = (.part count .brokenPipe, q) →
        ∃ after, s.writeFrame host p =
            (some (if (host.ending q).status = 0 then .write s.framesWritten .brokenPipe
              else exitFault host q), after) ∧
          sentBytes after.deeds = sentBytes s.deeds ++ p.bytes.take count ∧
          after.config = c ∧ after.Spent host s.framesWritten (host.ending q).status) ∧
      ∀ farewell, let last := (s.leave host farewell).2
        last.reaped = true ∧ .wait ∈ last.deeds ∧
          last.deeds.Pairwise fun earlier later => earlier = .wait → later ≠ .kill := by
  intro s
  obtain ⟨config, unwritten, -⟩ := spawn_fresh started
  have orderly : s.Orderly := (spawn_orderly started).writeAll frames
  have settings : s.config = c := (Running.config_writeAll host r frames).trans config
  refine ⟨?_, fun p fault after => Running.framesWritten_of_writeFrame_eq_some, fun p other => ?_,
    fun p count q isOpen size broken => ?_, fun farewell => ?_⟩
  · rw [Running.framesWritten_writeAll, unwritten, Nat.zero_add]
  · rw [← settings] at other ⊢
    exact Running.writeFrame_size other
  · rw [← settings] at size
    obtain ⟨after, answer, same, -, sent, spent⟩ := orderly.writeFrame_broken isOpen size broken
    exact ⟨after, answer, sent, same.trans settings, spent⟩
  · obtain ⟨last, reaped⟩ : (s.leave host farewell).2.Orderly ∧ _ := orderly.leave farewell
    exact ⟨reaped, last.waited.1 reaped, last.kills⟩

/-- A program that takes one frame and quits with the status 3 when it gets the next. -/
theorem spawned_life_quitting :
    let host := Host.quitting 1 ⟨3, [], ⟨[]⟩⟩
    let f : Pixels := .filled 2 2 ⟨1, 2, 3, 4⟩ (by decide)
    ∃ r left, Running.spawn host .small ⟨[]⟩ = (.ok r, left) ∧
      let s := (r.writeAll host [f]).2
      s.framesWritten = 1 ∧ ∃ after, s.writeFrame host f = (some (exitFault host 0), after) ∧
        (after.writeFrame host f).1 = some (.write 1 .inputClosed) ∧
        (after.leave host .finish).1 = some (.failure 3 "") := by
  intro host f
  refine ⟨_, _, rfl, ?_⟩
  obtain ⟨counted, -, -, broken, -⟩ :=
    spawned_life (show Running.spawn host .small ⟨[]⟩ = (.ok _, _) from rfl) [f]
  obtain ⟨after, answer, -, config, spent⟩ := broken f 1 0 rfl rfl rfl
  refine ⟨counted, after, answer, ?_, spent.reports⟩
  exact spent.refuses f (by rw [config]; rfl)

end Life

end ShaderFilm.Encoder
