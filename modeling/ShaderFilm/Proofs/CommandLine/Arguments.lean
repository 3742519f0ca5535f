import ShaderFilm.CommandLine.Arguments

/-!
# Arguments come from their readers

Whatever a command line gives as the size, the times, the rate or the adapter has passed the reader
of its flag (`read_fromFlags`).  Values enter only through `put`, so every step of the reading keeps
this of what has been taken so far.
-/

namespace ShaderFilm.CommandLine

/-- The values that were given were read from the texts of flags. -/
structure Arguments.FromFlags (a : Arguments) : Prop where
  width : ∀ n ∈ a.width, ∃ text, readDimension text = .ok n
  height : ∀ n ∈ a.height, ∃ text, readDimension text = .ok n
  duration : ∀ x ∈ a.duration, ∃ text, readDuration text = .ok x
  fps : ∀ n ∈ a.fps, ∃ text, readRate text = .ok n
  start : ∀ x ∈ a.start, ∃ text, readStart text = .ok x
  gpuPower : ∀ p ∈ a.gpuPower, ∃ text, readPower text = .ok p

theorem bind_eq_ok {ε α β : Type} {x : Except ε α} {f : α → Except ε β} {b : β}
    (ok : (x >>= f) = .ok b) : ∃ a, x = .ok a ∧ f a = .ok b := by
  cases x with
  | error fault => cases ok
  | ok a => exact ⟨a, rfl, ok⟩

/-! ### One value -/

namespace Arguments

theorem empty_fromFlags : empty.FromFlags where
  width _ given := by cases given
  height _ given := by cases given
  duration _ given := by cases given
  fps _ given := by cases given
  start _ given := by cases given
  gpuPower _ given := by cases given

theorem readWith_eq_ok {α : Type} {read : List Char → Except ValueFault α} {s : Setting}
    {value : List Char} {given : Option α} (taken : readWith read s value = .ok given) :
    ∀ x ∈ given, ∃ text, read text = .ok x := by
  unfold readWith at taken
  split at taken
  · next x ok =>
    obtain rfl := Except.ok.inj taken
    rintro y given
    obtain rfl := Option.some.inj given
    exact ⟨value, ok⟩
  · cases taken

theorem put_fromFlags {a b : Arguments} {s : Setting} {value : List Char} (flags : a.FromFlags)
    (put : a.put s value = .ok b) : b.FromFlags := by
  cases s
  case help | version => cases put
  case ffmpeg | dumpCanonical =>
    obtain rfl := Except.ok.inj put
    exact { flags with }
  all_goals
    obtain ⟨given, ok, put⟩ := bind_eq_ok put
    obtain rfl := Except.ok.inj put
  case shader | output | config | stillExport => exact { flags with }
  case width => exact { flags with width := readWith_eq_ok ok }
  case height => exact { flags with height := readWith_eq_ok ok }
  case duration => exact { flags with duration := readWith_eq_ok ok }
  case fps => exact { flags with fps := readWith_eq_ok ok }
  case start => exact { flags with start := readWith_eq_ok ok }
  case gpuPower => exact { flags with gpuPower := readWith_eq_ok ok }

end Arguments

/-! ### One argument -/

namespace Reading

variable {r r' : Reading} {s : Setting}

theorem take_fromFlags {value : List Char} (flags : r.taken.FromFlags)
    (ok : r.take s value = .ok r') : r'.taken.FromFlags := by
  unfold take at ok
  split at ok
  · cases ok
  · obtain ⟨taken, put, ok⟩ := bind_eq_ok ok
    obtain rfl := Except.ok.inj ok
    exact Arguments.put_fromFlags flags put

theorem settle_fromFlags (flags : r.taken.FromFlags) (ok : r.settle = .ok r') :
    r'.taken.FromFlags := by
  unfold settle at ok
  split at ok
  · obtain rfl := Except.ok.inj ok
    exact flags
  · cases ok
  · exact take_fromFlags (r := { r with pending := none }) flags ok

theorem begin_fromFlags {attached : Option (List Char)} (flags : r.taken.FromFlags)
    (ok : r.begin s attached = .ok r') : r'.taken.FromFlags := by
  unfold begin at ok
  obtain ⟨settled, before, ok⟩ := bind_eq_ok ok
  have flags := settle_fromFlags flags before
  split at ok
  · exact take_fromFlags flags ok
  · split at ok
    · obtain rfl := Except.ok.inj ok
      exact flags
    · exact take_fromFlags flags ok

theorem long_fromFlags {text : List Char} (flags : r.taken.FromFlags)
    (ok : r.long text = .ok r') : r'.taken.FromFlags := by
  unfold long at ok
  dsimp only at ok
  split at ok
  · cases ok
  · split at ok
    · split at ok
      · exact begin_fromFlags flags ok
      · cases ok
    · exact begin_fromFlags flags ok

theorem short_fromFlags {text : List Char} (flags : r.taken.FromFlags)
    (ok : r.short text = .ok r') : r'.taken.FromFlags := by
  unfold short at ok
  split at ok
  · obtain rfl := Except.ok.inj ok
    exact flags
  · split at ok
    · cases ok
    · split at ok
      · exact begin_fromFlags flags ok
      · split at ok <;> exact begin_fromFlags flags ok

theorem positional_fromFlags {argument : List Char} (flags : r.taken.FromFlags)
    (ok : r.positional argument = .ok r') : r'.taken.FromFlags := by
  unfold positional at ok
  split at ok
  · cases ok
  · obtain ⟨settled, before, ok⟩ := bind_eq_ok ok
    have flags := settle_fromFlags flags before
    obtain rfl := Except.ok.inj ok
    exact flags

theorem plain_fromFlags {argument : List Char} (flags : r.taken.FromFlags)
    (ok : r.plain argument = .ok r') : r'.taken.FromFlags := by
  unfold plain at ok
  split at ok
  · obtain rfl := Except.ok.inj ok
    exact flags
  · exact positional_fromFlags flags ok

theorem step_fromFlags {argument : List Char} (flags : r.taken.FromFlags)
    (ok : r.step argument = .ok r') : r'.taken.FromFlags := by
  unfold step at ok
  split at ok
  · exact positional_fromFlags flags ok
  · split at ok
    · obtain rfl := Except.ok.inj ok
      exact flags
    · exact long_fromFlags flags ok
    · exact plain_fromFlags flags ok
    · split at ok
      · exact plain_fromFlags flags ok
      · exact short_fromFlags flags ok
    · exact plain_fromFlags flags ok

/-! ### All of them -/

theorem foldlM_fromFlags {arguments : List (List Char)} (flags : r.taken.FromFlags)
    (ok : arguments.foldlM step r = .ok r') : r'.taken.FromFlags := by
  induction arguments generalizing r with
  | nil =>
    obtain rfl := Except.ok.inj ok
    exact flags
  | cons argument arguments ih =>
    rw [List.foldlM_cons] at ok
    obtain ⟨next, stepped, ok⟩ := bind_eq_ok ok
    exact ih (step_fromFlags flags stepped) ok

end Reading

/-- What a command line gives has passed the readers of its flags. -/
theorem read_fromFlags {arguments : List String} {encoder : Option String} {a : Arguments}
    (ok : Arguments.read arguments encoder = .ok a) : a.FromFlags := by
  obtain ⟨r, followed, ok⟩ := bind_eq_ok ok
  obtain ⟨settled, before, ok⟩ := bind_eq_ok ok
  obtain rfl := Except.ok.inj ok
  have flags := Reading.foldlM_fromFlags (r := .start) Arguments.empty_fromFlags followed
  exact { Reading.settle_fromFlags flags before with }

end ShaderFilm.CommandLine
