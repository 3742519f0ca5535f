import Mathlib.Tactic.SplitIfs
import ShaderFilm.Encoder.Running
import ShaderFilm.Render.Sequence

/-!
# What becomes of one item

`Takes` says that a program takes an item whole, and `Fails` says which fault an item comes to that
is not taken; each item does one or the other (`takes_or_fails`).  An encoder that is `Live` answers
accordingly (`writeFrame_takes`, `writeFrame_fails`).  `Sound` collects what holds of an encoder
whatever was done to it: every operation keeps it, and each way of ending the life of an encoder
waits for its program.
-/

namespace ShaderFilm.Encoder

open ShaderFilm.Files (Path Tree)
open ShaderFilm.Render (Item Pixels RenderedFrame)

variable {σ : Type}

/-- The bytes of an item. -/
def itemBytes : Item → List UInt8
  | .ok f => f.pixels.bytes
  | .error _ => []

/-- The bytes that were sent to a program. -/
def sentBytes (deeds : List Deed) : List UInt8 :=
  deeds.flatMap fun
    | .send bytes => bytes
    | _ => []

@[simp] theorem sentBytes_append (before after : List Deed) :
    sentBytes (before ++ after) = sentBytes before ++ sentBytes after := by
  simp [sentBytes]

@[simp] theorem sentBytes_nil : sentBytes [] = [] := rfl

@[simp] theorem sentBytes_send (bytes : List UInt8) (rest : List Deed) :
    sentBytes (.send bytes :: rest) = bytes ++ sentBytes rest := by
  simp [sentBytes]

/-! ### Items that are taken and items that are not -/

/-- The program `p` takes an item and is `q` then: the item is a frame of the size of the video, and
all of its bytes are accepted. -/
def Takes (host : Host σ) (c : Config) (p : σ) (item : Item) (q : σ) : Prop :=
  ∃ f : RenderedFrame, item = .ok f ∧ f.pixels.size = (c.width, c.height) ∧
    host.write p f.pixels.bytes = (.whole, q)

/-- The fault of a program that ends without success. -/
def exitFault (host : Host σ) (p : σ) : Fault :=
  .failure (host.ending p).status (Running.diagnosticsText (host.ending p).diagnostics)

/-- The fault of an item that the program `p` does not take, where `n` frames were written before. -/
inductive Fails (host : Host σ) (c : Config) (p : σ) (n : Nat) : Item → Fault → Prop
  | render (fault : Render.Fault) : Fails host c p n (.error fault) (.render fault)
  | size {f : RenderedFrame} (other : f.pixels.size ≠ (c.width, c.height)) :
      Fails host c p n (.ok f)
        (.invalidConfig (.frameSize f.pixels.width f.pixels.height c.width c.height))
  /-- The program has quit, and its exit status says that it failed. -/
  | quit {f : RenderedFrame} {count : Nat} {q : σ} (size : f.pixels.size = (c.width, c.height))
      (broken : host.write p f.pixels.bytes = (.part count .brokenPipe, q))
      (status : (host.ending q).status ≠ 0) :
      Fails host c p n (.ok f) (exitFault host q)
  | write {f : RenderedFrame} {count : Nat} {fault : Files.Fault} {q : σ}
      (size : f.pixels.size = (c.width, c.height))
      (refused : host.write p f.pixels.bytes = (.part count fault, q))
      (status : fault = .brokenPipe → (host.ending q).status = 0) :
      Fails host c p n (.ok f) (.write n fault)

theorem takes_or_fails (host : Host σ) (c : Config) (p : σ) (n : Nat) (item : Item) :
    (∃ q, Takes host c p item q) ∨ ∃ fault, Fails host c p n item fault := by
  cases item with
  | error fault => exact .inr ⟨_, .render fault⟩
  | ok f =>
    by_cases size : f.pixels.size = (c.width, c.height)
    · rcases w : host.write p f.pixels.bytes with ⟨accepted, q⟩
      cases accepted with
      | whole => exact .inl ⟨q, f, rfl, size, w⟩
      | part count fault =>
        by_cases status : fault = .brokenPipe → (host.ending q).status = 0
        · exact .inr ⟨_, .write size w status⟩
        · obtain ⟨rfl, failed⟩ := Classical.not_imp.1 status
          exact .inr ⟨_, .quit size w failed⟩
    · exact .inr ⟨_, .size size⟩

namespace Running

/-! ### Encoders that are not given up -/

/-- The encoder has an open input, and its program was not waited for. -/
structure Live (r : Running σ) : Prop where
  inputOpen : r.inputOpen = true
  diagnosticsLeft : r.diagnosticsLeft = true
  reaped : r.reaped = false

/-- The encoder when its program has taken items and is `q`. -/
def took (r : Running σ) (items : List Item) (q : σ) : Running σ :=
  { r with
    program := q
    framesWritten := r.framesWritten + items.length
    deeds := r.deeds ++ items.map fun item => .send (itemBytes item) }

theorem Live.took {r : Running σ} (live : r.Live) (items : List Item) (q : σ) :
    (r.took items q).Live :=
  ⟨live.inputOpen, live.diagnosticsLeft, live.reaped⟩

@[simp] theorem took_nil (r : Running σ) : r.took [] r.program = r := by
  simp [took]

/-- The encoder when its program, which is `q` then, has accepted some bytes and no more. -/
def tookPart (r : Running σ) (bytes : List UInt8) (q : σ) : Running σ :=
  { r with program := q, deeds := r.deeds ++ [.send bytes] }

theorem took_took (r : Running σ) (items more : List Item) (p q : σ) :
    (r.took items p).took more q = r.took (items ++ more) q := by
  simp [took, Nat.add_assoc]

theorem sentBytes_took (r : Running σ) (items : List Item) (q : σ) :
    sentBytes (r.took items q).deeds = sentBytes r.deeds ++ items.flatMap itemBytes := by
  have sends : sentBytes (items.map fun item => .send (itemBytes item)) =
      items.flatMap itemBytes := by
    induction items with
    | nil => rfl
    | cons item rest ih => simp [ih]
  rw [took, sentBytes_append, sends]

/-! ### Ends of a life -/

theorem closeInput_eq (r : Running σ) :
    r.closeInput = { r with inputOpen := false, deeds := r.closeInput.deeds } := by
  rcases r with ⟨c, p, isOpen, left, n, reaped, files, deeds⟩
  cases isOpen <;> rfl

theorem sentBytes_closeInput (r : Running σ) :
    sentBytes r.closeInput.deeds = sentBytes r.deeds := by
  unfold closeInput
  split_ifs
  · simp [sentBytes]
  · rfl

theorem sentBytes_reap (host : Host σ) (r : Running σ) :
    sentBytes (r.reap host).2.2.deeds = sentBytes r.deeds := by
  simp only [reap]
  split_ifs
  · exact sentBytes_closeInput r
  · rw [sentBytes_append, sentBytes_closeInput]
    simp [sentBytes]

theorem sentBytes_kill (host : Host σ) (r : Running σ) :
    sentBytes (r.kill host).deeds = sentBytes r.deeds := by
  unfold kill
  split_ifs
  · rfl
  · rw [sentBytes_append, sentBytes_closeInput]
    simp [sentBytes]

theorem finish_encoder (host : Host σ) (r : Running σ) :
    (r.finish host).2.2 = (r.reap host).2.2 := by
  simp only [finish]
  split_ifs <;> rfl

theorem framesWritten_reap (host : Host σ) (r : Running σ) :
    (r.reap host).2.2.framesWritten = r.framesWritten := by
  simp only [reap]
  rw [closeInput_eq]

theorem reap_text {host : Host σ} {r : Running σ} (left : r.diagnosticsLeft = true) :
    (r.reap host).2.1 = diagnosticsText (host.ending r.program).diagnostics := by
  simp only [reap]
  rw [closeInput_eq, if_pos left]

/-- Finishing fails with the exit status of the program, unless that is zero. -/
theorem finish_fault (host : Host σ) {r : Running σ} (live : r.Live) :
    (r.finish host).1 =
      if (host.ending r.program).status = 0 then none else some (exitFault host r.program) := by
  rw [exitFault, ← reap_text live.diagnosticsLeft]
  change (if (host.ending r.program).status ≠ 0 then _ else _ : _ × _ × _).1 = _
  by_cases status : (host.ending r.program).status = 0
  · rw [if_neg (· status), if_pos status]
  · rw [if_pos status, if_neg status]
    rfl

theorem writeFrame_takes {host : Host σ} {r : Running σ} {f : RenderedFrame} {q : σ}
    (live : r.Live) (takes : Takes host r.config r.program (.ok f) q) :
    r.writeFrame host f.pixels = (none, r.took [.ok f] q) := by
  obtain ⟨f, ⟨rfl⟩, size, whole⟩ := takes
  simp [writeFrame, size, live.inputOpen, whole, took, itemBytes]

/-- An encoder waits for a program that quits, and takes its exit status for the reason. -/
theorem writeFrame_quit {host : Host σ} {r : Running σ} {p : Pixels} {count : Nat} {q : σ}
    (live : r.Live) (size : p.size = (r.config.width, r.config.height))
    (broken : host.write r.program p.bytes = (.part count .brokenPipe, q)) :
    r.writeFrame host p =
      (some (if (host.ending q).status = 0 then .write r.framesWritten .brokenPipe
        else exitFault host q), ((r.tookPart (p.bytes.take count) q).reap host).2.2) := by
  have text : ((r.tookPart (p.bytes.take count) q).reap host).2.1 =
      diagnosticsText (host.ending q).diagnostics := reap_text live.diagnosticsLeft
  rw [exitFault, ← text]
  simp only [writeFrame, size, live.inputOpen, broken, tookPart]
  by_cases status : (host.ending q).status = 0
  · simp [reap, status]
  · simp [reap, status]

theorem writeFrame_refused {host : Host σ} {r : Running σ} {p : Pixels} {count : Nat}
    {fault : Files.Fault} {q : σ} (live : r.Live)
    (size : p.size = (r.config.width, r.config.height))
    (refused : host.write r.program p.bytes = (.part count fault, q)) (other : fault ≠ .brokenPipe) :
    r.writeFrame host p =
      (some (.write r.framesWritten fault), r.tookPart (p.bytes.take count) q) := by
  simp [writeFrame, size, live.inputOpen, refused, other, tookPart]

theorem sentBytes_tookPart (r : Running σ) (bytes : List UInt8) (q : σ) :
    sentBytes (r.tookPart bytes q).deeds = sentBytes r.deeds ++ bytes := by
  simp [tookPart]

/-- An encoder that fails at a frame has sent it in part at most. -/
theorem writeFrame_fails {host : Host σ} {r : Running σ} {f : RenderedFrame} {fault : Fault}
    (live : r.Live) (fails : Fails host r.config r.program r.framesWritten (.ok f) fault) :
    ∃ after : Running σ, r.writeFrame host f.pixels = (some fault, after) ∧
      ∃ part, part <+: f.pixels.bytes ∧ sentBytes after.deeds = sentBytes r.deeds ++ part := by
  cases fails with
  | size other => exact ⟨r, by simp [writeFrame, other], [], List.nil_prefix, by simp⟩
  | @quit _ count q size broken status =>
    have answer := writeFrame_quit live size broken
    rw [if_neg status] at answer
    refine ⟨_, answer, _, List.take_prefix count _, ?_⟩
    rw [sentBytes_reap, sentBytes_tookPart]
  | @write _ count fault q size refused status =>
    by_cases broken : fault = .brokenPipe
    · subst broken
      have answer := writeFrame_quit live size refused
      rw [if_pos (status rfl)] at answer
      refine ⟨_, answer, _, List.take_prefix count _, ?_⟩
      rw [sentBytes_reap, sentBytes_tookPart]
    · refine ⟨_, writeFrame_refused live size refused broken, _, List.take_prefix count _, ?_⟩
      rw [sentBytes_tookPart]

/-- An encoder that has written a frame has sent it and counted it, and is the same otherwise. -/
theorem eq_of_writeFrame_eq_none {host : Host σ} {r after : Running σ} {p : Pixels}
    (answer : r.writeFrame host p = (none, after)) :
    ∃ q, after =
      { r with
        program := q
        framesWritten := r.framesWritten + 1
        deeds := r.deeds ++ [.send p.bytes] } := by
  unfold writeFrame at answer
  split_ifs at answer
  · simp at answer
  · simp at answer
  · split at answer
    · next q accepted => exact ⟨q, (Prod.mk.inj answer).2.symm⟩
    · next count fault q refused =>
      dsimp only at answer
      split_ifs at answer <;> simp at answer

/-! ### What holds of every encoder -/

/-- The program of an encoder that counts as reaped was waited for, the file tree is what it left,
and the encoder itself removes nothing. -/
structure Sound (host : Host σ) (r : Running σ) : Prop where
  waited : r.reaped = true → .wait ∈ r.deeds
  left : r.reaped = true → ∃ p, r.files = host.killed p ∨ r.files = (host.ending p).files
  removes : ∀ path, .remove path ∉ r.deeds

variable {host : Host σ} {r : Running σ}

theorem Sound.send (sound : r.Sound host) (q : σ) (n : Nat) (bytes : List UInt8) :
    Sound host
      { r with program := q, framesWritten := n, deeds := r.deeds ++ [.send bytes] } :=
  ⟨fun reaped => List.mem_append_left _ (sound.waited reaped), sound.left,
    fun path removes => by simp [sound.removes path] at removes⟩

theorem Sound.closeInput (sound : r.Sound host) : r.closeInput.Sound host := by
  unfold Running.closeInput
  split_ifs
  · exact ⟨fun reaped => List.mem_append_left _ (sound.waited reaped), sound.left,
      fun path removes => by simp [sound.removes path] at removes⟩
  · exact sound

theorem Sound.reap (sound : r.Sound host) : (r.reap host).2.2.Sound host := by
  have closed := sound.closeInput
  simp only [Running.reap]
  split_ifs with reaped
  · exact ⟨fun _ => closed.waited reaped, fun _ => closed.left reaped, closed.removes⟩
  · exact ⟨fun _ => List.mem_append_right _ (List.mem_singleton.2 rfl), fun _ => ⟨_, .inr rfl⟩,
      fun path removes => by simp [closed.removes path] at removes⟩

theorem Sound.kill (sound : r.Sound host) : (r.kill host).Sound host := by
  have closed := sound.closeInput
  unfold Running.kill
  split_ifs with reaped
  · exact sound
  · exact ⟨fun _ => List.mem_append_right _ (by simp), fun _ => ⟨_, .inl rfl⟩,
      fun path removes => by simp [closed.removes path] at removes⟩

theorem Sound.finish (sound : r.Sound host) : (r.finish host).2.2.Sound host := by
  rw [finish_encoder]
  exact sound.reap

theorem Sound.writeFrame (sound : r.Sound host) (p : Pixels) :
    (r.writeFrame host p).2.Sound host := by
  unfold Running.writeFrame
  split_ifs
  · exact sound
  · exact sound
  · rcases host.write r.program p.bytes with ⟨_ | ⟨count, fault⟩, q⟩
    · exact sound.send q _ p.bytes
    · have sent := sound.send q r.framesWritten (p.bytes.take count)
      dsimp only
      split_ifs
      · exact sent.reap
      · exact sent.reap
      · exact sent

theorem reaped_reap (host : Host σ) (r : Running σ) : (r.reap host).2.2.reaped = true := rfl

theorem reaped_kill (host : Host σ) (r : Running σ) : (r.kill host).reaped = true := by
  unfold kill
  split_ifs with reaped
  · exact reaped
  · rfl

theorem reaped_finish (host : Host σ) (r : Running σ) : (r.finish host).2.2.reaped = true := by
  rw [finish_encoder]
  exact reaped_reap host r

end Running

end ShaderFilm.Encoder
