import ShaderFilm.Proofs.Encoder.Feeding
import ShaderFilm.Proofs.Files.Tree

/-!
# What a run leaves of its output

A run whose encoder does not start leaves all files alone (`spawn_grows`).  Once it has started, its
program is waited for on every way out (`feed_sound`), so what `discard` finds at the output is what
the program left there, and a run that fails leaves no file.  `run_output` puts this together.

A run that succeeds names the output and says how long the file is that is found there
(`run_summary`), but a program may end well without leaving one (`run_leaves_nothing`).
-/

namespace ShaderFilm.Encoder

open ShaderFilm.Files (Path Tree)
open ShaderFilm.Render (Item RenderedFrame)

variable {σ τ : Type}

/-- Whatever becomes of a program, it leaves no directory at the path. -/
def Host.LeavesNoDirectory (host : Host σ) (path : Path) : Prop :=
  ∀ p, (host.killed p).isDirectory path = false ∧ (host.ending p).files.isDirectory path = false

theorem spawn_grows {host : Host σ} {c : Config} {files left : Tree} {fault : Fault}
    (failed : Running.spawn host c files = (.error fault, left)) :
    files.Grows (·.Above c.output) left := by
  have grown := files.makeParent_grows c.output
  unfold Running.spawn at failed
  split at failed
  · obtain ⟨-, rfl⟩ := Prod.mk.inj failed
    exact .refl _ files
  · split at failed
    · next made =>
      rw [made] at grown
      obtain ⟨-, rfl⟩ := Prod.mk.inj failed
      exact grown
    · next made =>
      rw [made] at grown
      split at failed
      · obtain ⟨-, rfl⟩ := Prod.mk.inj failed
        exact grown
      · simp at failed

theorem spawn_sound {host : Host σ} {c : Config} {files left : Tree} {r : Running σ}
    (started : Running.spawn host c files = (.ok r, left)) : r.Sound host := by
  rw [spawn_eq started]
  exact ⟨by simp, by simp, by simp⟩

/-- Feeding waits for the program, however it ends. -/
theorem feed_sound (host : Host σ) (source : Source τ) (r : Running σ) (t : τ)
    (sound : r.Sound host) :
    (feed host source r t).encoder.Sound host ∧
      (feed host source r t).encoder.reaped = true := by
  fun_induction feed host source r t with
  | case1 r t u next fault log after finished =>
    have ended := sound.finish
    have reaped := Running.reaped_finish host r
    rw [finished] at ended reaped
    exact ⟨ended, reaped⟩
  | case2 r t fault events u next => exact ⟨sound.kill, Running.reaped_kill host r⟩
  | case3 r t f events u next tally fault after answer =>
    have written := sound.writeFrame f.pixels
    rw [answer] at written
    exact ⟨written.kill, Running.reaped_kill host after⟩
  | case4 r t f events u next tally after answer smaller fed ih =>
    have written := sound.writeFrame f.pixels
    rw [answer] at written
    exact ih written

/-- A feeding without a fault ends with a program that succeeds, and leaves the files as it does. -/
theorem ending_feed {host : Host σ} {source : Source τ} {r : Running σ} {t : τ} (live : r.Live)
    (complete : (feed host source r t).fault = none) :
    ∃ p, (host.ending p).status = 0 ∧
      (feed host source r t).encoder.files = (host.ending p).files := by
  fun_induction feed host source r t with
  | case1 r t u next fault log after finished =>
    have status : fault = if (host.ending r.program).status = 0 then none else _ :=
      (congrArg Prod.fst finished).symm.trans (Running.finish_fault host live)
    obtain rfl : (r.reap host).2.2 = after := by
      rw [← Running.finish_encoder, finished]
    refine ⟨r.program, ?_, ?_⟩
    · by_cases succeeded : (host.ending r.program).status = 0
      · exact succeeded
      · rw [if_neg succeeded] at status
        cases status.symm.trans complete
    · simp only [Running.reap]
      rw [Running.closeInput_eq, if_neg (by simp [live.reaped])]
  | case2 r t fault events u next => simp at complete
  | case3 r t f events u next tally fault after answer => simp at complete
  | case4 r t f events u next tally after answer smaller fed ih =>
    obtain ⟨q, rfl⟩ := Running.eq_of_writeFrame_eq_none answer
    exact ih ⟨live.inputOpen, live.diagnosticsLeft, live.reaped⟩ complete

/-- A feeding without a fault leaves the files as the program does that ends by itself. -/
theorem files_feed {host : Host σ} {source : Source τ} {r : Running σ} {t : τ} (live : r.Live)
    (complete : (feed host source r t).fault = none) :
    ∃ p, (feed host source r t).encoder.files = (host.ending p).files := by
  obtain ⟨p, -, left⟩ := ending_feed live complete
  exact ⟨p, left⟩

theorem discard_deeds (files : Tree) (path : Path) :
    (discard files path).2.2 = [] ∨ (discard files path).2.2 = [.remove path] := by
  unfold discard
  split_ifs
  · split
    · exact .inr rfl
    · exact .inr rfl
  · exact .inl rfl

theorem exists?_discard {files : Tree} {path : Path} (file : files.isDirectory path = false) :
    (discard files path).1.exists? path = false := by
  unfold discard
  split_ifs with present
  · obtain ⟨names, removed, gone⟩ := Tree.remove_of_exists present file
    rw [removed]
    exact gone
  · exact Bool.eq_false_iff.2 present

/-- A run that does nothing to a program has not started one. -/
theorem run_grows {host : Host σ} {source : Source τ} {c : Config} {t : τ} {files : Tree}
    (idle : (run host source c t files).deeds = []) :
    files.Grows (·.Above c.output) (run host source c t files).files := by
  rcases started : Running.spawn host c files with ⟨fault | r, left⟩
  · simpa [run, started] using spawn_grows started
  · obtain ⟨sound, reaped⟩ := feed_sound host source r t (spawn_sound started)
    have waited := sound.waited reaped
    have kept : ∀ d ∈ (feed host source r t).encoder.deeds,
        d ∈ (run host source c t files).deeds := by
      cases fed : (feed host source r t).fault with
      | none =>
        obtain ⟨-, deeds, -⟩ := run_of_fault_eq_none started fed
        simp [deeds]
      | some fault =>
        obtain ⟨-, deeds, -⟩ := run_of_fault_eq_some started fed
        simp +contextual [deeds]
    have absent := kept _ waited
    rw [idle] at absent
    cases absent

/-- A run whose encoder cannot be started keeps all files and makes at most directories above the
output; refused settings do not even make these.  A run that fails later has waited for its program
before it removes the output, and no file is left there, provided that the program leaves no
directory.  A run that succeeds leaves all files as its program does, and removes nothing. -/
theorem run_output (host : Host σ) (source : Source τ) (c : Config) (t : τ) (files : Tree) :
    let o := run host source c t files
    (∀ fault, c.validate = .error fault →
        o.result = .error (.invalidConfig fault) ∧ o.files = files ∧ o.deeds = []) ∧
      (∀ fault left, Running.spawn host c files = (.error fault, left) →
        o.result = .error fault ∧ files.Grows (·.Above c.output) o.files ∧ o.deeds = []) ∧
      (∀ r left fault, Running.spawn host c files = (.ok r, left) → o.result = .error fault →
        host.LeavesNoDirectory c.output → o.files.exists? c.output = false ∧
          ∃ before, .wait ∈ before ∧ (∀ path, .remove path ∉ before) ∧
            (o.deeds = before ∨ o.deeds = before ++ [.remove c.output])) ∧
      ∀ r left s, Running.spawn host c files = (.ok r, left) → o.result = .ok s →
        (∃ p, o.files = (host.ending p).files) ∧ ∀ path, .remove path ∉ o.deeds := by
  intro o
  refine ⟨fun fault refused => ?_, fun fault left failed => ?_,
    fun r left fault started failed noDirectory => ?_, fun r left s started ok => ?_⟩
  · have failed : Running.spawn host c files = (.error (.invalidConfig fault), files) := by
      simp [Running.spawn, refused]
    simp [o, run, failed]
  · have grown := spawn_grows failed
    simpa [o, run, failed] using grown
  · obtain ⟨sound, reaped⟩ := feed_sound host source r t (spawn_sound started)
    cases fed : (feed host source r t).fault with
    | none =>
      obtain ⟨⟨s, ok, -⟩, -⟩ := run_of_fault_eq_none started fed
      cases failed.symm.trans ok
    | some other =>
      obtain ⟨-, deeds, kept, -⟩ := run_of_fault_eq_some started fed
      refine ⟨?_, _, sound.waited reaped, sound.removes, ?_⟩
      · rw [kept]
        obtain ⟨p, left | left⟩ := sound.left reaped
        · exact exists?_discard (left ▸ (noDirectory p).1)
        · exact exists?_discard (left ▸ (noDirectory p).2)
      · rw [deeds]
        rcases discard_deeds (feed host source r t).encoder.files c.output with none | one
        · rw [none]
          exact .inl (List.append_nil _)
        · rw [one]
          exact .inr rfl
  · obtain ⟨sound, -⟩ := feed_sound host source r t (spawn_sound started)
    cases fed : (feed host source r t).fault with
    | none =>
      obtain ⟨-, deeds, kept, -⟩ := run_of_fault_eq_none started fed
      rw [kept, deeds]
      exact ⟨files_feed (spawn_live started) fed, sound.removes⟩
    | some other =>
      obtain ⟨error, -⟩ := run_of_fault_eq_some started fed
      cases ok.symm.trans error

/-- A program that has taken the first of two frames quits in the middle of the second and leaves a
file, which is removed when the program was waited for. -/
theorem run_output_quitting :
    let left : Tree := ⟨[([['d']], .directory), ([['d'], ['o']], .file (.bytes [0]) false)]⟩
    let f : RenderedFrame := ⟨⟨0, 0⟩, .filled 2 2 ⟨1, 2, 3, 4⟩ (by decide)⟩
    let g : RenderedFrame := ⟨⟨1, 1⟩, .filled 2 2 ⟨5, 6, 7, 8⟩ (by decide)⟩
    let o := run (.quitting 1 ⟨1, [], left⟩) .ofList .small [.ok f, .ok g] ⟨[]⟩
    o.result = .error (.failure 1 "") ∧
      (∃ part, part <+: g.pixels.bytes ∧ sentBytes o.deeds = f.pixels.bytes ++ part) ∧
      left.exists? Config.small.output = true ∧ o.files.exists? Config.small.output = false ∧
      ∃ before, .wait ∈ before ∧
        (o.deeds = before ∨ o.deeds = before ++ [.remove Config.small.output]) := by
  intro left f g o
  have takes : TakesAll (.quitting 1 ⟨1, [], left⟩) .small 1 [.ok f] 0 :=
    .cons ⟨f, rfl, rfl, rfl⟩ (.nil 0)
  have quits : Fails (.quitting 1 ⟨1, [], left⟩) .small 0 1 (.ok g) (.failure 1 "") :=
    @Fails.quit _ (.quitting 1 ⟨1, [], left⟩) .small 0 1 g 1 0 rfl rfl nofun
  obtain ⟨r, made, started, program⟩ :
      ∃ r made, Running.spawn (.quitting 1 ⟨1, [], left⟩) .small ⟨[]⟩ = (.ok r, made) ∧
        r.program = 1 := ⟨_, _, rfl, rfl⟩
  obtain ⟨error, -, -, part⟩ :=
    run_until started (Source.gives_ofList [.ok f] [.ok g]) rfl (program.symm ▸ takes) quits
  obtain ⟨-, -, failed, -⟩ :=
    run_output (.quitting 1 ⟨1, [], left⟩) .ofList .small [.ok f, .ok g] ⟨[]⟩
  obtain ⟨gone, before, waited, -, last⟩ := failed r made _ started error fun p => ⟨rfl, rfl⟩
  exact ⟨error, part, rfl, gone, before, waited, last⟩

/-! ### What a run says of its output -/

/-- A program that succeeds leaves a file at the path. -/
def Host.LeavesFile (host : Host σ) (path : Path) : Prop :=
  ∀ p, (host.ending p).status = 0 → ∃ content executable,
    (host.ending p).files.node? path = .ok (.file (.bytes content) executable)

/-- The summary of a run names the output, and takes its size from what the program left there. -/
theorem run_eq_ok {host : Host σ} {source : Source τ} {c : Config} {t : τ} {files : Tree}
    {s : Summary} (ok : (run host source c t files).result = .ok s) :
    s.output = c.output ∧
      s.bytes = ((run host source c t files).files.size? c.output).getD 0 ∧
      ∃ p, (host.ending p).status = 0 ∧
        (run host source c t files).files = (host.ending p).files := by
  rcases started : Running.spawn host c files with ⟨fault | r, left⟩
  · simp [run, started] at ok
  cases fed : (feed host source r t).fault with
  | some fault =>
    obtain ⟨error, -⟩ := run_of_fault_eq_some started fed
    cases ok.symm.trans error
  | none =>
    have ending := ending_feed (spawn_live started) fed
    simp only [run, started, fed, Except.ok.injEq] at ok ⊢
    subst ok
    exact ⟨rfl, rfl, ending⟩

/-- A run that succeeds says how long the file is that its program left at the output.  Whether it
left one is not looked at: where nothing is there, the size is said to be zero. -/
theorem run_summary (host : Host σ) (source : Source τ) (c : Config) (t : τ) (files : Tree)
    (s : Summary) (ok : (run host source c t files).result = .ok s) :
    let left := (run host source c t files).files
    s.output = c.output ∧
      (∃ p, (host.ending p).status = 0 ∧ left = (host.ending p).files) ∧
      (∀ content executable, left.node? s.output = .ok (.file (.bytes content) executable) →
        s.bytes = content.length) ∧
      (left.exists? s.output = false → s.bytes = 0) ∧
      (host.LeavesFile c.output → ∃ content executable,
        left.node? s.output = .ok (.file (.bytes content) executable) ∧
          s.bytes = content.length) := by
  intro left
  obtain ⟨output, bytes, p, status, ending⟩ := run_eq_ok ok
  have length (content : List UInt8) (executable : Bool)
      (file : left.node? s.output = .ok (.file (.bytes content) executable)) :
      s.bytes = content.length := by
    rw [bytes, ← output, Tree.size?, file]
    rfl
  refine ⟨output, ⟨p, status, ending⟩, length, fun absent => ?_, fun leaves => ?_⟩
  · rw [bytes, ← output, Tree.size?]
    unfold Tree.exists? at absent
    split at absent
    · contradiction
    · next fault missing =>
      rw [missing]
      rfl
  · obtain ⟨content, executable, file⟩ := leaves p status
    rw [← ending, ← output] at file
    exact ⟨content, executable, file, length content executable file⟩

/-- A program that takes no frames and ends well, whatever it leaves, makes a run succeed. -/
theorem exists_run_eq_ok (left : Tree) :
    ∃ s, (run (.quitting 0 ⟨0, [], left⟩) .ofList .small [] ⟨[]⟩).result = .ok s := by
  obtain ⟨r, made, started⟩ :
      ∃ r made, Running.spawn (.quitting 0 ⟨0, [], left⟩) .small ⟨[]⟩ = (.ok r, made) :=
    ⟨_, _, rfl⟩
  obtain ⟨ok, -⟩ := run_ofList_all started (.nil r.program)
  obtain ⟨s, result, -⟩ := ok rfl
  exact ⟨s, result⟩

theorem run_summary_three :
    let left : Tree := ⟨[([['d']], .directory), ([['d'], ['o']], .file (.bytes [1, 2, 3]) false)]⟩
    let o := run (.quitting 0 ⟨0, [], left⟩) .ofList .small [] ⟨[]⟩
    ∃ s, o.result = .ok s ∧ s.bytes = 3 := by
  intro left o
  obtain ⟨s, ok⟩ := exists_run_eq_ok left
  obtain ⟨output, ⟨p, -, kept⟩, length, -⟩ :=
    run_summary (.quitting 0 ⟨0, [], left⟩) .ofList .small [] ⟨[]⟩ s ok
  refine ⟨s, ok, length [1, 2, 3] false ?_⟩
  rw [kept, output]
  rfl

/-- A run may succeed where its program has left nothing at the output. -/
theorem run_leaves_nothing :
    ¬ ∀ (host : Host Nat) (source : Source (List Item)) (c : Config) (items : List Item)
      (files : Tree) (s : Summary), (run host source c items files).result = .ok s →
        ∃ content executable,
          (run host source c items files).files.node? s.output =
            .ok (.file (.bytes content) executable) ∧ s.bytes = content.length := by
  intro finished
  obtain ⟨s, ok⟩ := exists_run_eq_ok ⟨[]⟩
  obtain ⟨output, -, p, -, kept⟩ := run_eq_ok ok
  obtain ⟨content, executable, file, -⟩ := finished _ _ _ _ _ s ok
  rw [kept, output] at file
  cases file

end ShaderFilm.Encoder
