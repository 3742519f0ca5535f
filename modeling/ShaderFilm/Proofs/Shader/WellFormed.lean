import ShaderFilm.Proofs.Shader.Canonical
import ShaderFilm.Proofs.Shader.Conditional

/-!
# Well-formed conditionals

Conditionals are well formed if each is closed, is divided only while it is open, and has one
`#else` at most.  The canonical program keeps them so if the guards of embedded profiles have no
branches of their own and the directives inside of them have blanks behind their names
(`wellFormed_text`).  Otherwise it may take out one end of a guard and leave the other, or leave a
branch behind (`wellFormed_text_lost`).
-/

namespace ShaderFilm.Shader

open ShaderFilm.Text

/-- Whether conditionals are well formed in lines that stand within open ones.  Of each of these it
is known whether its `#else` has been. -/
def wellFormed : (elses : List Bool) → List (List Char) → Bool
  | elses, [] => elses.isEmpty
  | elses, line :: rest =>
    match namedPart? line with
    | none => wellFormed elses rest
    | some .opener => wellFormed (false :: elses) rest
    | some .elif => !elses.isEmpty && wellFormed elses rest
    | some .otherwise => elses.head? == some false && wellFormed (true :: elses.tail) rest
    | some .closer => !elses.isEmpty && wellFormed elses.tail rest

/-- Inside of a guard, its closer included, the names of directives end at blanks. -/
def SpacedGuards (nesting : List Bool) (ls : List (List Char)) : Prop :=
  ∀ x ∈ within namedPart? nesting ls, true ∈ x.1 → part? x.2 = namedPart? x.2

instance (nesting : List Bool) (ls : List (List Char)) : Decidable (SpacedGuards nesting ls) :=
  inferInstanceAs (Decidable (∀ x ∈ within namedPart? nesting ls, _ → _))

theorem spacedGuards_cons {nesting : List Bool} {line : List Char} {rest : List (List Char)} :
    SpacedGuards nesting (line :: rest) ↔
      (true ∈ nesting → part? line = namedPart? line) ∧
        SpacedGuards (enter namedPart? nesting line) rest := by
  simp [SpacedGuards, within]

/-! ### Lines that are of no concern -/

theorem wellFormed_map {f : List Char → List Char}
    (same : ∀ line, namedPart? (f line) = namedPart? line) (elses : List Bool)
    (ls : List (List Char)) : wellFormed elses (ls.map f) = wellFormed elses ls := by
  induction ls generalizing elses with
  | nil => rfl
  | cons line rest ih =>
    rw [List.map_cons, wellFormed, wellFormed, same]
    cases namedPart? line with
    | none => exact ih elses
    | some part => cases part <;> simp only [ih]

/-- Only lines that have parts count. -/
theorem wellFormed_filter (elses : List Bool) (ls : List (List Char)) :
    wellFormed elses (ls.filter fun line => (namedPart? line).isSome) = wellFormed elses ls := by
  induction ls generalizing elses with
  | nil => rfl
  | cons line rest ih =>
    rw [List.filter_cons, wellFormed]
    cases part : namedPart? line with
    | none => exact ih elses
    | some part' =>
      simp only [Option.isSome_some, if_true, wellFormed, part]
      cases part' <;> simp only [ih]

theorem namedPart?_of_hash_not_mem {line : List Char} (h : '#' ∉ line) : namedPart? line = none :=
  Part.of_plain (trimStart_ne_hash h)

/-- The lines that are added around a body have no parts. -/
theorem wellFormed_text_eq (source : List Char) :
    wellFormed [] (lines (canonicalize source).text) =
      wellFormed [] (lines (canonicalize source).body) := by
  have none_of {ls : List (List Char)} (plain : ∀ line ∈ ls, '#' ∉ line) :
      (ls.filter fun line => (namedPart? line).isSome) = [] := by
    rw [List.filter_eq_nil_iff]
    intro line mem
    rw [namedPart?_of_hash_not_mem (plain line mem)]
    decide
  have added := hash_not_mem_added source
  have version : namedPart? Canonical.versionLine = none := by decide
  rw [lines_text, wellFormed, version]
  dsimp only
  rw [← wellFormed_filter, List.filter_append, List.filter_append,
    none_of fun line mem => added line (List.mem_append_left _ mem),
    none_of fun line mem => added line (List.mem_append_right _ mem), List.nil_append,
    List.append_nil, wellFormed_filter]

/-! ### Nesting as the program sees it -/

/-- How the nesting of the conditionals goes together with the nesting that the program keeps track
of: outside of guards neither holds a guard, and they are the same from the outermost guard on. -/
inductive Aligned : (nesting seen : List Bool) → Prop
  | outside {nesting seen : List Bool} (noGuard : true ∉ nesting) (noneSeen : true ∉ seen) :
      Aligned nesting seen
  | guard {nesting seen : List Bool} (inner : Aligned nesting seen) :
      Aligned (true :: nesting) (true :: seen)
  | inside {nesting seen : List Bool} (guarded : true ∈ nesting) (inner : Aligned nesting seen) :
      Aligned (false :: nesting) (false :: seen)

namespace Aligned

variable {nesting seen : List Bool} {line : List Char}

theorem eq_outside (aligned : Aligned nesting seen) (noGuard : true ∉ nesting) : true ∉ seen := by
  cases aligned with
  | outside _ noneSeen => exact noneSeen
  | guard => exact absurd List.mem_cons_self noGuard
  | inside guarded => exact absurd (List.mem_cons_of_mem false guarded) noGuard

/-- An opener is kept unless it opens a guard. -/
theorem opener (aligned : Aligned nesting seen) (part : namedPart? line = some .opener)
    (spaced : true ∈ nesting → part? line = namedPart? line) (rest : List (List Char)) :
    ∃ seen', Aligned (isGuard line :: nesting) seen' ∧
      keptLines seen (line :: rest) =
        if isGuard line then keptLines seen' rest else line :: keptLines seen' rest := by
  rw [keptLines_cons]
  cases guard : isGuard line with
  | true =>
    rw [part?_of_isGuard guard]
    exact ⟨true :: seen, aligned.guard, rfl⟩
  | false =>
    by_cases guarded : true ∈ nesting
    · rw [spaced guarded, part]
      exact ⟨false :: seen, .inside guarded aligned, rfl⟩
    · have noneSeen := aligned.eq_outside guarded
      rcases part?_eq_or line with same | ⟨unseen, unstated⟩
      · rw [same, part]
        exact ⟨false :: seen, .outside (by simp [guarded]) (by simp [noneSeen]), rfl⟩
      · rw [unseen, unstated]
        exact ⟨seen, .outside (by simp [guarded]) noneSeen, rfl⟩

/-- A closer is kept unless it closes a guard. -/
theorem closer (aligned : Aligned nesting seen) (part : namedPart? line = some .closer)
    (spaced : true ∈ nesting → part? line = namedPart? line) (rest : List (List Char)) :
    ∃ seen', Aligned nesting.tail seen' ∧
      keptLines seen (line :: rest) =
        if nesting.head? = some true then keptLines seen' rest
        else line :: keptLines seen' rest := by
  rw [keptLines_cons]
  by_cases guarded : true ∈ nesting
  · rw [spaced guarded, part]
    cases aligned with
    | outside noGuard => exact absurd guarded noGuard
    | guard inner => exact ⟨_, inner, rfl⟩
    | inside _ inner => exact ⟨_, inner, rfl⟩
  · have noneSeen := aligned.eq_outside guarded
    have other : nesting.head? ≠ some true := fun first => guarded (List.mem_of_head? first)
    have other' : seen.head? ≠ some true := fun first => noneSeen (List.mem_of_head? first)
    have noGuard : true ∉ nesting.tail := mt List.mem_of_mem_tail guarded
    rcases part?_eq_or line with same | ⟨unseen, unstated⟩
    · rw [same, part]
      exact ⟨seen.tail, .outside noGuard (mt List.mem_of_mem_tail noneSeen),
        (if_neg other').trans (if_neg other).symm⟩
    · rw [unseen, unstated]
      exact ⟨seen, .outside noGuard noneSeen, (if_neg other).symm⟩

end Aligned

/-- A line that divides a conditional is kept. -/
theorem keptLines_cons_of_divides {line : List Char} {part : Part}
    (divides : namedPart? line = some part) (inner : part = .elif ∨ part = .otherwise)
    (seen : List Bool) (rest : List (List Char)) :
    keptLines seen (line :: rest) = line :: keptLines seen rest := by
  rw [keptLines_cons]
  rcases part?_eq_or line with same | ⟨unseen, unstated⟩
  · rw [same, divides]
    rcases inner with rfl | rfl <;> rfl
  · rw [unseen, unstated]
    rfl

/-- The kept lines are well formed within the conditionals that are kept. -/
theorem wellFormed_keptLines (levels : List (Bool × Bool)) (seen : List Bool)
    (aligned : Aligned (levels.map Prod.fst) seen) (ls : List (List Char))
    (bare : BareGuards namedPart? (levels.map Prod.fst) ls)
    (spaced : SpacedGuards (levels.map Prod.fst) ls)
    (formed : wellFormed (levels.map Prod.snd) ls = true) :
    wellFormed (unmarked levels) (keptLines seen ls) = true := by
  induction ls generalizing levels seen with
  | nil =>
    have empty : levels = [] := by simpa [wellFormed] using formed
    rw [empty]
    rfl
  | cons line rest ih =>
    obtain ⟨own, bare⟩ := bareGuards_cons.1 bare
    obtain ⟨here, spaced⟩ := spacedGuards_cons.1 spaced
    cases part : namedPart? line with
    | none =>
      rw [enter, part] at bare spaced
      rw [wellFormed, part] at formed
      have step := ih levels seen aligned bare spaced formed
      have unseen : part? line = none := by
        rcases part?_eq_or line with same | ⟨unseen, -⟩
        · exact same.trans part
        · exact unseen
      rw [keptLines_cons, unseen]
      dsimp only
      split
      · exact step
      · rw [wellFormed, part]
        exact step
    | some part' =>
      rw [enter, part] at bare spaced
      rw [wellFormed, part] at formed
      cases part' with
      | opener =>
        obtain ⟨seen', aligned', kept⟩ := aligned.opener part here rest
        have step := ih ((isGuard line, false) :: levels) seen' aligned' bare spaced formed
        rw [kept]
        cases guard : isGuard line with
        | true =>
          rw [guard] at step
          exact step
        | false =>
          rw [guard] at step
          show wellFormed (unmarked levels) (line :: keptLines seen' rest) = true
          rw [wellFormed, part]
          exact step
      | closer =>
        obtain ⟨seen', aligned', kept⟩ := aligned.closer part here rest
        rw [kept]
        rcases levels with _ | ⟨⟨_ | _, e⟩, levels⟩
        · cases formed
        · have step := ih levels seen' aligned' bare spaced formed
          show wellFormed (e :: unmarked levels) (line :: keptLines seen' rest) = true
          rw [wellFormed, part]
          exact step
        · exact ih levels seen' aligned' bare spaced formed
      | elif =>
        rw [keptLines_cons_of_divides part (.inl rfl), wellFormed, part]
        rcases levels with _ | ⟨⟨_ | _, e⟩, levels⟩
        · cases formed
        · exact ih ((false, e) :: levels) seen aligned bare spaced formed
        · exact absurd rfl (own (by simp [part]))
      | otherwise =>
        rw [keptLines_cons_of_divides part (.inr rfl), wellFormed, part]
        rcases levels with _ | ⟨⟨_ | _, e⟩, levels⟩
        · cases formed
        · cases e with
          | false => exact ih ((false, true) :: levels) seen aligned bare spaced formed
          | true => cases formed
        · exact absurd rfl (own (by simp [part]))

/-- The conditionals of a program are well formed if those of the source are, no guard has an
`#elif` or an `#else` of its own, and inside of guards the names of directives end at blanks. -/
theorem wellFormed_text (source : List Char) (formed : wellFormed [] (lines source) = true)
    (bare : BareGuards namedPart? [] (lines source)) (spaced : SpacedGuards [] (lines source)) :
    wellFormed [] (lines (canonicalize source).text) = true := by
  rw [wellFormed_text_eq, lines_body, wellFormed_map blind_namedPart?.tidy]
  have outside : Aligned [] [] := .outside List.not_mem_nil List.not_mem_nil
  exact wellFormed_keptLines [] [] outside (lines source) bare spaced formed

/-- A guard that stands within one conditional and holds another one, whose directives have comments
behind their names. -/
theorem wellFormed_text_nested :
    let source := unlines (["#ifdef A//a", "#ifdef GL_ES", "#if B", "x", "# else /* b */", "y",
      "#endif // b", "#endif", "#elif(C)", "z", "#else//c", "#endif//a"].map String.toList)
    wellFormed [] (lines source) = true ∧ BareGuards namedPart? [] (lines source) ∧
      SpacedGuards [] (lines source) ∧
      wellFormed [] (lines (canonicalize source).text) = true := by
  intro source
  have formed : wellFormed [] (lines source) = true := by decide +kernel
  have bare : BareGuards namedPart? [] (lines source) := by decide +kernel
  have spaced : SpacedGuards [] (lines source) := by decide +kernel
  exact ⟨formed, bare, spaced, wellFormed_text source formed bare spaced⟩

/-- A guard whose closer has a comment right behind its name is taken out without it, and a guard
that has a branch is taken out around it. -/
theorem wellFormed_text_lost :
    let closer := "#ifdef GL_ES\nprecision mediump float;\n#endif//GL_ES\nvoid main() {}\n".toList
    let branch := "#ifdef GL_ES\nprecision mediump float;\n#else\n#endif\nvoid main() {}\n".toList
    (wellFormed [] (lines closer) = true ∧
        wellFormed [] (lines (canonicalize closer).text) = false) ∧
      wellFormed [] (lines branch) = true ∧
        wellFormed [] (lines (canonicalize branch).text) = false := by
  intro closer branch
  rw [wellFormed_text_eq, wellFormed_text_eq]
  decide +kernel

end ShaderFilm.Shader
