import Mathlib.Data.List.Forall2
import Mathlib.Data.Nat.Digits.Defs
import Mathlib.Tactic.SplitIfs
import ShaderFilm.Device.Session

/-!
# What the uniforms hold when a frame is drawn

A slot is read back as the words of its numbers (`words_bytes`), and no other bytes are
(`bytes_of_words`).  `Paired` says that the buffer which is written for a uniform is the one that is
bound where a program looks for it, though the one is found by the number of the binding and the
other by the order in which buffers are made.  So a write changes what is held under one binding
only (`held?_write`).  `Session.Steady` is what holds between two draws: the size and the pointer
were written when the session was opened, and nothing was written for a uniform that is not in use.
Every draw keeps it, whether it fails or not, and the buffers that it shows the program hold its own
time (`submit_shows`).  `drawAll_shows` says so of any row of draws.
-/

namespace ShaderFilm.Device

open ShaderFilm.Render (Fault Pixels)
open ShaderFilm.Shader (Compiled StandardUniform UniformUsage)

/-! ### Words -/

/-- The numbers that four bytes each make, the lowest byte first. -/
def words : List UInt8 → List Nat
  | a :: b :: c :: d :: rest =>
    Nat.ofDigits 256 [a.toNat, b.toNat, c.toNat, d.toNat] :: words rest
  | _ => []

theorem words_wordBytes (n : UInt32) (rest : List UInt8) :
    words (wordBytes n ++ rest) = n.toNat :: words rest := by
  have number : Nat.ofDigits 256 ((wordBytes n).map UInt8.toNat) = n.toNat := by
    have := n.toNat_lt
    simp [wordBytes, Nat.ofDigits_cons, Nat.shiftRight_eq_div_pow]
    omega
  exact congrArg (· :: words rest) number

/-- The words of a slot are those of its numbers. -/
theorem words_bytes (s : Slot) :
    words s.bytes = [s.first, s.second, s.third, s.fourth].map fun x => x.toBits.toNat := by
  simp only [Slot.bytes, List.flatMap_cons, List.flatMap_nil, words_wordBytes]
  rfl

theorem wordBytes_ofDigits (a b c d : UInt8) :
    wordBytes (.ofNat (Nat.ofDigits 256 [a.toNat, b.toNat, c.toNat, d.toNat])) = [a, b, c, d] := by
  have ha := a.toNat_lt
  have hb := b.toNat_lt
  have hc := c.toNat_lt
  have hd := d.toNat_lt
  simp only [wordBytes, List.cons.injEq, ← UInt8.toNat_inj]
  simp [Nat.ofDigits_cons, Nat.shiftRight_eq_div_pow]
  omega

/-- Bytes that are read as words are the bytes of these words. -/
theorem bytes_of_words {n : Nat} {bytes : List UInt8} (length : bytes.length = 4 * n) :
    (words bytes).flatMap (fun word => wordBytes (.ofNat word)) = bytes := by
  induction n generalizing bytes with
  | zero =>
    obtain rfl := List.eq_nil_of_length_eq_zero length
    rfl
  | succ n ih =>
    obtain ⟨a, b, c, d, rest, rfl⟩ : ∃ a b c d rest, bytes = a :: b :: c :: d :: rest := by
      rcases bytes with _ | ⟨a, _ | ⟨b, _ | ⟨c, _ | ⟨d, rest⟩⟩⟩⟩
      case cons.cons.cons.cons => exact ⟨a, b, c, d, rest, rfl⟩
      all_goals
        simp only [List.length_cons, List.length_nil] at length
        omega
    have length' : rest.length = 4 * n := by
      simp only [List.length_cons] at length
      omega
    rw [words, List.flatMap_cons, wordBytes_ofDigits, ih length']
    rfl

/-! ### Buffers and bindings -/

namespace Buffers

/-- Under a binding there are the words of the given numbers, the lowest byte of each first, and
nothing else. -/
def Holds (b : Buffers) (binding : Nat) (numbers : List Float32) : Prop :=
  ∃ bytes, b.held? binding = some bytes ∧ bytes.length = 4 * numbers.length ∧
    words bytes = numbers.map fun x => x.toBits.toNat

theorem holds_of_held? {b : Buffers} {binding : Nat} {s : Slot}
    (held : b.held? binding = some s.bytes) :
    b.Holds binding [s.first, s.second, s.third, s.fourth] :=
  ⟨s.bytes, held, s.length_bytes, words_bytes s⟩

theorem Holds.held? {b : Buffers} {binding : Nat} {numbers : List Float32}
    (holds : b.Holds binding numbers) :
    b.held? binding = some (numbers.flatMap fun x => wordBytes x.toBits) := by
  obtain ⟨bytes, held, length, same⟩ := holds
  have read := bytes_of_words length
  rw [same, List.flatMap_map] at read
  simpa only [held, Option.some.injEq, UInt32.ofNat_toNat] using read.symm

/-- Under the binding of every uniform there is the buffer that is made and written for it. -/
def Paired (b : Buffers) : Prop :=
  ∀ u, b.bound.lookup u.binding = some (position u) ∧ (b.target u).label = u.name

theorem fresh_paired : fresh.Paired := by
  intro u
  cases u <;> exact ⟨by decide, by decide⟩

theorem position_eq_iff {u v : StandardUniform} : position u = position v ↔ u = v :=
  ⟨fun same => StandardUniform.binding_injective (congrArg Fin.val same), congrArg position⟩

theorem Paired.held? {b : Buffers} (paired : b.Paired) (u : StandardUniform) :
    b.held? u.binding = some (b.target u).bytes := by
  rw [Buffers.held?, (paired u).1]
  rfl

theorem target_write (b : Buffers) (u v : StandardUniform) (bytes : List UInt8) :
    (b.write u bytes).target v = if v = u then { b.target u with bytes } else b.target v := by
  have other : (position u : Nat) = position v ↔ v = u := by
    rw [← Fin.ext_iff, position_eq_iff, eq_comm]
  simp only [target, write, Fin.getElem_fin, Vector.getElem_set, other]

theorem Paired.write {b : Buffers} (paired : b.Paired) (u : StandardUniform) (bytes : List UInt8) :
    (b.write u bytes).Paired := by
  intro v
  refine ⟨(paired v).1, ?_⟩
  rw [target_write]
  split_ifs with same
  · exact same ▸ (paired u).2
  · exact (paired v).2

theorem held?_write {b : Buffers} (paired : b.Paired) (u v : StandardUniform)
    (bytes : List UInt8) :
    (b.write u bytes).held? v.binding = if v = u then some bytes else b.held? v.binding := by
  rw [(paired.write u bytes).held?, paired.held?, target_write]
  split_ifs <;> rfl

theorem held?_fresh (u : StandardUniform) :
    fresh.held? u.binding = some (List.replicate Slot.size 0) := by
  cases u <;> decide

end Buffers

/-! ### Writing uniforms -/

section Write

variable {usage : UniformUsage} {b : Buffers} {requests : List Request}

theorem writeUniform_paired (paired : b.Paired) (u : StandardUniform) (slot : Slot) :
    (writeUniform usage u slot (b, requests)).1.Paired := by
  unfold writeUniform
  split_ifs
  · exact paired.write u slot.bytes
  · exact paired

theorem held?_writeUniform (paired : b.Paired) (u v : StandardUniform) (slot : Slot) :
    (writeUniform usage u slot (b, requests)).1.held? v.binding =
      if v = u ∧ usage.uses u = true then some slot.bytes else b.held? v.binding := by
  unfold writeUniform
  by_cases used : usage.uses u = true
  · rw [if_pos used, Buffers.held?_write paired]
    simp [used]
  · simp [used]

/-- Only the buffer of a uniform in use is written, and under its own label. -/
theorem requests_writeUniform (paired : b.Paired) (u : StandardUniform) (slot : Slot) :
    (writeUniform usage u slot (b, requests)).2 =
      requests ++ if usage.uses u then [.write u.name slot.bytes] else [] := by
  unfold writeUniform
  split_ifs
  · rw [(paired u).2]
  · exact (List.append_nil requests).symm

/-- No request writes the buffer of a uniform that is not in use. -/
def Unwritten (usage : UniformUsage) (requests : List Request) : Prop :=
  ∀ u, usage.uses u = false → ∀ bytes, .write u.name bytes ∉ requests

theorem Unwritten.append {more : List Request} (unwritten : Unwritten usage requests)
    (others : Unwritten usage more) : Unwritten usage (requests ++ more) := by
  intro u unused bytes mem
  rcases List.mem_append.1 mem with mem | mem
  · exact unwritten u unused bytes mem
  · exact others u unused bytes mem

theorem unwritten_writeUniform (paired : b.Paired) (u : StandardUniform) (slot : Slot)
    (unwritten : Unwritten usage requests) :
    Unwritten usage (writeUniform usage u slot (b, requests)).2 := by
  rw [requests_writeUniform paired]
  refine unwritten.append fun v unused bytes mem => ?_
  split_ifs at mem with used
  · obtain ⟨same, -⟩ := Request.write.inj (List.mem_singleton.1 mem)
    rw [StandardUniform.name_injective same, used] at unused
    contradiction
  · exact List.not_mem_nil mem

/-- What the buffers held at each draw, in order. -/
def drawn (requests : List Request) : List Buffers :=
  requests.filterMap fun
    | .draw _ uniforms => some uniforms
    | _ => none

@[simp] theorem drawn_append (requests more : List Request) :
    drawn (requests ++ more) = drawn requests ++ drawn more := by
  simp [drawn]

theorem drawn_writeUniform (paired : b.Paired) (u : StandardUniform) (slot : Slot) :
    drawn (writeUniform usage u slot (b, requests)).2 = drawn requests := by
  rw [requests_writeUniform paired, drawn_append]
  split_ifs <;> simp [drawn]

end Write

/-! ### Sessions -/

/-- What stays the same in the buffers of a session: a uniform in use holds the size of the target
or the resting pointer, and the buffer of a uniform that is not in use holds what it was made
with. -/
structure Buffers.Steady (usage : UniformUsage) (width height : UInt32) (b : Buffers) : Prop where
  paired : b.Paired
  resolution : usage.uses .resolution = true →
    b.Holds StandardUniform.resolution.binding [width.toFloat32, height.toFloat32, 0.0, 0.0]
  mouse : b.Holds StandardUniform.mouse.binding [0.0, 0.0, 0.0, 0.0]
  unused : ∀ u, usage.uses u = false → b.held? u.binding = some (List.replicate 16 0)

/-- What a program is shown that draws at a time. -/
structure Buffers.Shows (usage : UniformUsage) (width height : UInt32) (time : Float32)
    (b : Buffers) : Prop extends b.Steady usage width height where
  time : usage.uses .time = true →
    b.Holds StandardUniform.time.binding [time, 0.0, 0.0, 0.0]

section Constants

variable (usage : UniformUsage) (width height : UInt32) (requests : List Request)

theorem writeResolution_paired :
    (writeUniform usage .resolution (.pair width.toFloat32 height.toFloat32)
      (.fresh, requests)).1.Paired :=
  writeUniform_paired Buffers.fresh_paired _ _

theorem writeConstants_steady :
    (writeConstants usage width height (.fresh, requests)).1.Steady usage width height := by
  have sized := writeResolution_paired usage width height requests
  have held (v : StandardUniform) :
      (writeConstants usage width height (.fresh, requests)).1.held? v.binding =
        if v = .mouse ∧ usage.uses .mouse = true then some (Slot.pair 0.0 0.0).bytes
        else if v = .resolution ∧ usage.uses .resolution = true then
          some (Slot.pair width.toFloat32 height.toFloat32).bytes
        else some (List.replicate Slot.size 0) := by
    rw [writeConstants, held?_writeUniform sized, held?_writeUniform Buffers.fresh_paired,
      Buffers.held?_fresh]
    rfl
  refine ⟨writeUniform_paired sized .mouse _, fun used => ?_, ?_, fun u unused => ?_⟩
  · exact Buffers.holds_of_held? (s := .pair width.toFloat32 height.toFloat32)
      (by simp [held, used])
  · refine Buffers.holds_of_held? (s := .pair 0.0 0.0) ?_
    by_cases used : usage.uses .mouse = true
    · simp [held, used]
    · simp [held, used, ← Slot.bytes_zero]
  · rw [held, if_neg, if_neg]
    · rfl
    · rintro ⟨rfl, used⟩
      exact Bool.false_ne_true (unused.symm.trans used)
    · rintro ⟨rfl, used⟩
      exact Bool.false_ne_true (unused.symm.trans used)

theorem unwritten_writeConstants (unwritten : Unwritten usage requests) :
    Unwritten usage (writeConstants usage width height (.fresh, requests)).2 :=
  unwritten_writeUniform (writeResolution_paired usage width height requests) .mouse _
    (unwritten_writeUniform Buffers.fresh_paired .resolution _ unwritten)

theorem drawn_writeConstants :
    drawn (writeConstants usage width height (.fresh, requests)).2 = drawn requests := by
  rw [writeConstants, drawn_writeUniform (writeResolution_paired usage width height requests),
    drawn_writeUniform Buffers.fresh_paired]

end Constants

theorem writeTime_shows {usage : UniformUsage} {width height : UInt32} {b : Buffers}
    (steady : b.Steady usage width height) (time : Float32) (requests : List Request) :
    (writeTime usage time (b, requests)).1.Shows usage width height time := by
  have held (v : StandardUniform) :
      (writeTime usage time (b, requests)).1.held? v.binding =
        if v = .time ∧ usage.uses .time = true then some (Slot.scalar time).bytes
        else b.held? v.binding := held?_writeUniform steady.paired .time v _
  refine ⟨⟨writeUniform_paired steady.paired .time _, fun used => ?_, ?_, fun u unused => ?_⟩,
    fun used => ?_⟩
  · rw [Buffers.Holds, held, if_neg (by simp)]
    exact steady.resolution used
  · rw [Buffers.Holds, held, if_neg (by simp)]
    exact steady.mouse
  · rw [held, if_neg]
    · exact steady.unused u unused
    · rintro ⟨rfl, used⟩
      exact Bool.false_ne_true (unused.symm.trans used)
  · exact Buffers.holds_of_held? (s := .scalar time) (by rw [held, if_pos ⟨rfl, used⟩])

namespace Session

/-- What holds of a session between two draws. -/
structure Steady (s : Session) : Prop where
  buffers : s.buffers.Steady s.program.usage s.width s.height
  unwritten : Unwritten s.program.usage s.requests

/-- Draws frames at several times, whatever becomes of each. -/
def drawAll (s : Session) : List Float32 → List (Except Fault Pixels) × Session
  | [] => ([], s)
  | time :: times =>
    let (frame, after) := s.draw time
    let (frames, last) := after.drawAll times
    (frame :: frames, last)

/-- What is asked of a device before the first uniform is written. -/
def asking (options : Options) : List Request :=
  [.adapter options, .pipeline quadStride, .vertices quadBytes] ++
    Buffers.fresh.made.toList.map fun b => .buffer b.label Slot.size

section Open

variable {adapter : Option Adapter} {options : Options} {program : Compiled}
  {width height : UInt32} {submitted : Nat} {s : Session} {asked : List Request}

theorem open_eq_ok
    (opened : Session.open adapter options program width height submitted = (.ok s, asked)) :
    s.program = program ∧ s.width = width ∧ s.height = height ∧ s.requests = asked ∧
      s.buffers = (writeConstants program.usage width height (.fresh, asking options)).1 ∧
      ∃ size, asked = (writeConstants program.usage width height (.fresh, asking options)).2 ++
        [.target width height, .buffer stagingLabel size] := by
  unfold Session.open at opened
  split at opened
  · simp at opened
  split at opened
  · simp at opened
  split_ifs at opened
  · simp at opened
  · simp at opened
  · simp at opened
  dsimp only at opened
  split at opened
  · simp at opened
  split at opened
  · simp at opened
  · obtain ⟨rfl, rfl⟩ := by simpa only [Prod.mk.injEq, Except.ok.injEq] using opened
    exact ⟨rfl, rfl, rfl, rfl, rfl, _, List.append_assoc _ _ _⟩

/-- A session that was opened has asked for no draw yet. -/
theorem open_steady
    (opened : Session.open adapter options program width height submitted = (.ok s, asked)) :
    s.Steady ∧ drawn s.requests = [] := by
  obtain ⟨rfl, rfl, rfl, rfl, buffers, size, asked⟩ := open_eq_ok opened
  have none : Unwritten s.program.usage (asking options) := fun u unused bytes mem => by
    simp [asking] at mem
  refine ⟨⟨?_, ?_⟩, ?_⟩
  · rw [buffers]
    exact writeConstants_steady ..
  · rw [asked]
    exact (unwritten_writeConstants _ _ _ _ none).append fun u unused bytes mem => by simp at mem
  · rw [asked, drawn_append, drawn_writeConstants]
    simp [drawn, asking]

end Open

/-- A draw keeps what holds between draws, and shows the program its own time. -/
theorem submit_shows {s : Session} (steady : s.Steady) (time : Float32) :
    (s.submit time).Steady ∧ ∃ b : Buffers, b.Shows s.program.usage s.width s.height time ∧
      drawn (s.submit time).requests = drawn s.requests ++ [b] := by
  have shows := writeTime_shows steady.buffers time s.requests
  refine ⟨⟨shows.toSteady, ?_⟩, _, shows, ?_⟩
  · have written := unwritten_writeUniform steady.buffers.paired .time (.scalar time)
      steady.unwritten
    exact written.append fun u unused bytes mem => by simp at mem
  · have kept : drawn (writeTime s.program.usage time (s.buffers, s.requests)).2 =
        drawn s.requests := drawn_writeUniform steady.buffers.paired .time (.scalar time)
    rw [← kept]
    exact drawn_append _ _

/-- Whether a draw fails or not, the session is then as it is when the draw was submitted, but for
what is known of the staging buffer. -/
theorem draw_eq_submit (s : Session) (time : Float32) :
    (s.draw time).2.program = s.program ∧ (s.draw time).2.width = s.width ∧
      (s.draw time).2.height = s.height ∧
      (s.draw time).2.buffers = (s.submit time).buffers ∧
      (s.draw time).2.requests = (s.submit time).requests := by
  unfold draw
  dsimp only
  split_ifs
  · exact ⟨rfl, rfl, rfl, rfl, rfl⟩
  · split
    · exact ⟨rfl, rfl, rfl, rfl, rfl⟩
    · split <;> exact ⟨rfl, rfl, rfl, rfl, rfl⟩

/-- What was asked of a device before a draw stays in front. -/
theorem requests_prefix_draw (s : Session) (time : Float32) :
    s.requests <+: (s.draw time).2.requests := by
  obtain ⟨-, -, -, -, requests⟩ := s.draw_eq_submit time
  have written : s.requests <+:
      (writeTime s.program.usage time (s.buffers, s.requests)).2 := by
    unfold writeTime writeUniform
    split_ifs
    · exact List.prefix_append _ _
    · exact List.prefix_rfl
  rw [requests]
  exact written.trans (List.prefix_append _ _)

theorem draw_steady {s : Session} (steady : s.Steady) (time : Float32) :
    (s.draw time).2.Steady := by
  obtain ⟨program, width, height, buffers, requests⟩ := s.draw_eq_submit time
  obtain ⟨⟨kept, unwritten⟩, -⟩ := submit_shows steady time
  constructor
  · rw [program, width, height, buffers]
    exact kept
  · rw [program, requests]
    exact unwritten

/-- However draws end, each of them is shown its own time. -/
theorem Steady.drawAll {s : Session} (steady : s.Steady) (times : List Float32) :
    (s.drawAll times).2.Steady ∧ (s.drawAll times).2.program = s.program ∧
      ∃ shown, drawn (s.drawAll times).2.requests = drawn s.requests ++ shown ∧
        List.Forall₂ (Buffers.Shows s.program.usage s.width s.height) times shown := by
  induction times generalizing s with
  | nil => exact ⟨steady, rfl, [], (List.append_nil _).symm, .nil⟩
  | cons time times ih =>
    obtain ⟨program, width, height, -, requests⟩ := s.draw_eq_submit time
    obtain ⟨-, b, shows, first⟩ := submit_shows steady time
    obtain ⟨last, same, shown, others, all⟩ := ih (draw_steady steady time)
    rw [program, width, height] at all
    refine ⟨last, same.trans program, b :: shown, ?_, .cons shows all⟩
    rw [Session.drawAll, others, requests, first]
    simp

end Session

/-- Whatever row of draws a session makes, and whichever of them fail: at each draw the buffers hold
the time of this draw, the size of the target and the resting pointer under the bindings of those
uniforms that the program uses, and the buffer of a uniform that it does not use is never
written. -/
theorem drawAll_shows {adapter : Option Adapter} {options : Options} {program : Compiled}
    {width height : UInt32} {submitted : Nat} {s : Session} {asked : List Request}
    (opened : Session.open adapter options program width height submitted = (.ok s, asked))
    (times : List Float32) :
    List.Forall₂ (Buffers.Shows program.usage width height) times
        (drawn (s.drawAll times).2.requests) ∧
      ∀ u, program.usage.uses u = false → ∀ bytes,
        .write u.name bytes ∉ (s.drawAll times).2.requests := by
  obtain ⟨rfl, rfl, rfl, -⟩ := Session.open_eq_ok opened
  obtain ⟨steady, none⟩ := Session.open_steady opened
  obtain ⟨last, same, shown, drawn, all⟩ := steady.drawAll times
  rw [none, List.nil_append] at drawn
  refine ⟨drawn ▸ all, ?_⟩
  rw [← same]
  exact last.unwritten

/-- Two draws of a program that does not use the pointer, of which the first is invalid. -/
theorem drawAll_shows_invalid :
    let card := Adapter.testCard 16 (some 0) none
    let program : Compiled := ⟨⟨[], none, false⟩,
      [(⟨⟨0, 0⟩, .uniform⟩, true), (⟨⟨0, 1⟩, .uniform⟩, true)], [], []⟩
    ∃ s asked, Session.open (some card) ⟨.high, false⟩ program 2 3 0 = (.ok s, asked) ∧
      (s.draw 1.5).1.toBool = false ∧
      ∃ a b, drawn (s.drawAll [1.5, 2.5]).2.requests = [a, b] ∧
        a.held? 0 = some [0, 0, 0xC0, 0x3F, 0, 0, 0, 0, 0, 0, 0, 0, 0, 0, 0, 0] ∧
        b.held? 0 = some [0, 0, 0x20, 0x40, 0, 0, 0, 0, 0, 0, 0, 0, 0, 0, 0, 0] ∧
        b.held? 1 = some [0, 0, 0, 0x40, 0, 0, 0x40, 0x40, 0, 0, 0, 0, 0, 0, 0, 0] ∧
        ∀ bytes, .write "u_mouse" bytes ∉ (s.drawAll [1.5, 2.5]).2.requests := by
  intro card program
  obtain ⟨s, asked, opened, invalid⟩ : ∃ s asked,
      Session.open (some card) ⟨.high, false⟩ program 2 3 0 = (.ok s, asked) ∧
        (s.draw 1.5).1.toBool = false := ⟨_, _, rfl, rfl⟩
  obtain ⟨shown, unwritten⟩ := drawAll_shows opened [1.5, 2.5]
  refine ⟨s, asked, opened, invalid, ?_⟩
  obtain ⟨a, _, before, others, first⟩ := List.forall₂_cons_left_iff.1 shown
  obtain ⟨b, _, shows, ends, rfl⟩ := List.forall₂_cons_left_iff.1 others
  rw [List.forall₂_nil_left_iff.1 ends] at first
  refine ⟨a, b, first, ?_, ?_, ?_, unwritten .mouse rfl⟩
  · exact (before.time rfl).held?.trans (by decide)
  · exact (shows.time rfl).held?.trans (by decide)
  · exact (shows.resolution rfl).held?.trans (by decide)

end ShaderFilm.Device
