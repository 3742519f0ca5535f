import ShaderFilm.Proofs.Shader.Statement

/-!
# Openers and closers that match

The canonical program keeps track of the conditionals that are open, innermost first.  The innermost
one was opened by the nearest opener behind which the lines are balanced (`nestingOf_eq_cons_iff`),
whether or not all conditionals are closed in the end.  So a closer is dropped just if it matches the
opener of a guard, and an opener that no closer matches is of no concern to the lines behind it
(`keptLines_closers`).
-/

namespace ShaderFilm.Shader

open ShaderFilm.Text

/-- Whether a line opens a conditional. -/
def isOpener (line : List Char) : Bool := LineKind.of line ∈ [LineKind.guard, .opener]

/-- Whether a line closes a conditional. -/
def isCloser (line : List Char) : Bool := LineKind.of line = .closer

/-- How many conditionals the lines open. -/
def openers (ls : List (List Char)) : Nat := ls.countP isOpener

/-- How many conditionals the lines close. -/
def closers (ls : List (List Char)) : Nat := ls.countP isCloser

/-- Behind `depth` open conditionals the lines never close one that is not open. -/
def Covered (depth : Nat) (ls : List (List Char)) : Prop :=
  ∀ front, front <+: ls → closers front ≤ depth + openers front

/-- The lines close as many conditionals as they open, and none of their beginnings closes more. -/
def Balanced (ls : List (List Char)) : Prop :=
  closers ls = openers ls ∧ ∀ front, front <+: ls → closers front ≤ openers front

/-- A closer behind `front` matches `opener`: this is the nearest opener such that the lines between
are balanced. -/
structure Matches (front before : List (List Char)) (opener : List Char)
    (between : List (List Char)) : Prop where
  split : front = before ++ opener :: between
  opens : isOpener opener = true
  balanced : Balanced between
  nearest : ∀ before' opener' between', front = before' ++ opener' :: between' →
    isOpener opener' = true → Balanced between' → between.length ≤ between'.length

variable {line : List Char} {ls xs ys : List (List Char)} {depth : Nat}

/-! ### Lines that are balanced -/

theorem openers_append (xs ys : List (List Char)) :
    openers (xs ++ ys) = openers xs + openers ys :=
  List.countP_append

theorem closers_append (xs ys : List (List Char)) :
    closers (xs ++ ys) = closers xs + closers ys :=
  List.countP_append

theorem openers_cons : openers (line :: ls) = openers [line] + openers ls :=
  openers_append [line] ls

theorem closers_cons : closers (line :: ls) = closers [line] + closers ls :=
  closers_append [line] ls

/-- Openers and closers are known by the part they play. -/
theorem kinds_eq (line : List Char) :
    isOpener line = decide (part? line = some .opener) ∧
      isCloser line = decide (part? line = some .closer) := by
  have agree := agree line
  rw [isOpener, isCloser]
  generalize LineKind.of line = kind at agree ⊢
  generalize part? line = part at agree ⊢
  cases agree <;> exact ⟨rfl, rfl⟩

theorem part?_of_isOpener (opens : isOpener line = true) : part? line = some .opener := by
  rw [(kinds_eq line).1] at opens
  exact of_decide_eq_true opens

theorem part?_of_isCloser (closes : isCloser line = true) : part? line = some .closer := by
  rw [(kinds_eq line).2] at closes
  exact of_decide_eq_true closes

theorem part?_ne_closer (other : isCloser line = false) : part? line ≠ some .closer := by
  rw [(kinds_eq line).2] at other
  exact of_decide_eq_false other

theorem opens_or_closes (line : List Char) :
    isOpener line = true ∨ isCloser line = true ∨
      isOpener line = false ∧ isCloser line = false := by
  cases isOpener line <;> cases isCloser line <;> decide

theorem entered_opener (opens : isOpener line = true) :
    openers [line] = 1 ∧ closers [line] = 0 ∧
      ∀ nesting, enter part? nesting line = isGuard line :: nesting := by
  have part := part?_of_isOpener opens
  simp [openers, closers, kinds_eq, enter, part]

theorem entered_closer (closes : isCloser line = true) :
    openers [line] = 0 ∧ closers [line] = 1 ∧
      ∀ nesting, enter part? nesting line = nesting.tail := by
  have part := part?_of_isCloser closes
  simp [openers, closers, kinds_eq, enter, part]

theorem entered_other (opens : isOpener line = false) (closes : isCloser line = false) :
    openers [line] = 0 ∧ closers [line] = 0 ∧ ∀ nesting, enter part? nesting line = nesting := by
  refine ⟨by simp [openers, opens], by simp [closers, closes], fun nesting => ?_⟩
  unfold enter
  split
  · next opener =>
    rw [(kinds_eq line).1, opener] at opens
    cases opens
  · next closer => exact absurd closer (part?_ne_closer closes)
  · rfl

theorem Covered.of_append (covered : Covered depth (xs ++ ys)) : Covered depth xs :=
  fun front begins => covered front (begins.trans (List.prefix_append xs ys))

theorem Covered.mono {more : Nat} (covered : Covered depth ls) (le : depth ≤ more) :
    Covered more ls := by
  intro front begins
  have := covered front begins
  omega

/-- Lines are covered if the lines in front are and leave enough open for those behind. -/
theorem Covered.append (rest : Nat) (first : Covered depth xs) (second : Covered rest ys)
    (left : rest + closers xs = depth + openers xs) : Covered depth (xs ++ ys) := by
  intro front begins
  rcases List.prefix_or_prefix_of_prefix begins (List.prefix_append xs ys) with
    inside | ⟨more, rfl⟩
  · exact first front inside
  · have behind := second more ((List.prefix_append_right_inj xs).1 begins)
    rw [closers_append, openers_append]
    omega

theorem covered_singleton (enough : closers [line] ≤ depth + openers [line]) :
    Covered depth [line] := by
  intro front begins
  rcases List.prefix_cons_iff.1 begins with rfl | ⟨rest, rfl, none⟩
  · exact Nat.zero_le _
  · rwa [List.prefix_nil.1 none]

theorem balanced_iff : Balanced ls ↔ closers ls = openers ls ∧ Covered 0 ls := by
  simp only [Balanced, Covered, Nat.zero_add]

theorem Balanced.append (first : Balanced xs) (second : Balanced ys) : Balanced (xs ++ ys) := by
  rw [balanced_iff] at *
  refine ⟨?_, first.2.append 0 second.2 (by omega)⟩
  rw [closers_append, openers_append]
  omega

theorem balanced_nil : Balanced [] := by
  refine ⟨rfl, fun front begins => ?_⟩
  rw [List.prefix_nil.1 begins]
  exact Nat.le_refl 0

/-- Lines that are no directives of conditionals do not matter. -/
theorem Balanced.concat (balanced : Balanced ls) (opens : isOpener line = false)
    (closes : isCloser line = false) : Balanced (ls ++ [line]) := by
  obtain ⟨opened, closed, -⟩ := entered_other opens closes
  refine balanced.append (balanced_iff.2 ⟨by omega, covered_singleton (by omega)⟩)

/-- An opener, balanced lines and a closer are balanced. -/
theorem Balanced.enclose {opener closer : List Char} (balanced : Balanced ls)
    (opens : isOpener opener = true) (closes : isCloser closer = true) :
    Balanced (opener :: (ls ++ [closer])) := by
  obtain ⟨opened, unclosed, -⟩ := entered_opener opens
  obtain ⟨unopened, closed, -⟩ := entered_closer closes
  obtain ⟨same, covered⟩ := balanced_iff.1 balanced
  have inside : Covered 1 (ls ++ [closer]) :=
    (covered.mono (Nat.zero_le 1)).append 1 (covered_singleton (by omega)) (by omega)
  refine balanced_iff.2 ⟨?_, ?_⟩
  · rw [closers_cons, openers_cons, closers_append, openers_append]
    omega
  · have first : Covered 0 [opener] := covered_singleton (by omega)
    exact first.append 1 inside (by omega)

/-! ### Conditionals that are open -/

/-- The conditionals that are open behind the lines, innermost first, with `true` for the guards. -/
def nestingOf (front : List (List Char)) : List Bool := front.foldl (enter part?) []

theorem nestingOf_concat (front : List (List Char)) (line : List Char) :
    nestingOf (front ++ [line]) = enter part? (nestingOf front) line := by
  rw [nestingOf, List.foldl_concat]
  rfl

/-- Conditionals below those that are covered are left alone. -/
theorem Covered.foldl_below (top : List Bool) (covered : Covered top.length ls)
    (below : List Bool) :
    ls.foldl (enter part?) (top ++ below) = ls.foldl (enter part?) top ++ below ∧
      (ls.foldl (enter part?) top).length + closers ls = top.length + openers ls := by
  induction ls using List.reverseRecOn with
  | nil => exact ⟨rfl, rfl⟩
  | append_singleton ls line ih =>
    obtain ⟨same, depth⟩ := ih covered.of_append
    have enough := covered _ List.prefix_rfl
    rw [closers_append, openers_append] at enough ⊢
    rw [List.foldl_concat, List.foldl_concat, same]
    generalize ls.foldl (enter part?) top = inner at depth ⊢
    obtain opens | closes | ⟨opens, closes⟩ := opens_or_closes line
    · obtain ⟨opened, closed, enters⟩ := entered_opener opens
      rw [enters, enters, List.length_cons]
      exact ⟨rfl, by omega⟩
    · obtain ⟨opened, closed, enters⟩ := entered_closer closes
      rw [enters, enters]
      cases inner with
      | nil =>
        rw [List.length_nil] at depth
        omega
      | cons first rest =>
        rw [List.length_cons] at depth
        rw [List.cons_append, List.tail_cons, List.tail_cons]
        exact ⟨rfl, by omega⟩
    · obtain ⟨opened, closed, enters⟩ := entered_other opens closes
      rw [enters, enters]
      exact ⟨rfl, by omega⟩

theorem foldl_of_balanced (balanced : Balanced ls) (nesting : List Bool) :
    ls.foldl (enter part?) nesting = nesting := by
  obtain ⟨same, covered⟩ := balanced_iff.1 balanced
  obtain ⟨apart, depth⟩ := Covered.foldl_below [] covered nesting
  have none : ls.foldl (enter part?) [] = [] := by
    refine List.length_eq_zero_iff.1 ?_
    rw [List.length_nil] at depth
    omega
  rwa [none] at apart

theorem nestingOf_of_split {before between : List (List Char)} {opener : List Char}
    (opens : isOpener opener = true) (balanced : Balanced between) :
    nestingOf (before ++ opener :: between) = isGuard opener :: nestingOf before := by
  obtain ⟨-, -, enters⟩ := entered_opener opens
  rw [nestingOf, List.foldl_append, List.foldl_cons, foldl_of_balanced balanced, enters]
  rfl

/-- The innermost conditional was opened by an opener behind which the lines are balanced. -/
theorem exists_split_of_nestingOf {front : List (List Char)} {guard : Bool} {rest : List Bool}
    (nesting : nestingOf front = guard :: rest) :
    ∃ before opener between, front = before ++ opener :: between ∧ isOpener opener = true ∧
      Balanced between ∧ isGuard opener = guard ∧ nestingOf before = rest := by
  induction n : front.length using Nat.strongRecOn generalizing front guard rest with
  | _ n ih =>
    rcases List.eq_nil_or_concat front with rfl | ⟨front, line, rfl⟩
    · cases nesting
    · rw [List.concat_eq_append] at nesting n ⊢
      rw [List.length_append, List.length_singleton] at n
      rw [nestingOf_concat] at nesting
      obtain opens | closes | ⟨opens, closes⟩ := opens_or_closes line
      · obtain ⟨-, -, enters⟩ := entered_opener opens
        rw [enters, List.cons.injEq] at nesting
        exact ⟨front, line, [], rfl, opens, balanced_nil, nesting.1, nesting.2⟩
      · -- the closer ends a conditional, and what was around that one is the innermost now
        obtain ⟨-, -, enters⟩ := entered_closer closes
        rw [enters] at nesting
        cases inner : nestingOf front with
        | nil =>
          rw [inner] at nesting
          cases nesting
        | cons closed around =>
          rw [inner, List.tail_cons] at nesting
          obtain ⟨before, opener, between, rfl, opens', balanced, -, outside⟩ :=
            ih front.length (by omega) inner rfl
          rw [List.length_append] at n
          obtain ⟨before', opener', between', rfl, opens'', balanced', guard', outside'⟩ :=
            ih before.length (by omega) (outside.trans nesting) rfl
          refine ⟨before', opener', between' ++ opener :: (between ++ [line]), ?_, opens'',
            balanced'.append (balanced.enclose opens' closes), guard', outside'⟩
          simp only [List.append_assoc, List.cons_append]
      · obtain ⟨-, -, enters⟩ := entered_other opens closes
        rw [enters] at nesting
        obtain ⟨before, opener, between, rfl, opens', balanced, guard', outside⟩ :=
          ih front.length (by omega) nesting rfl
        refine ⟨before, opener, between ++ [line], ?_, opens', balanced.concat opens closes,
          guard', outside⟩
        simp only [List.append_assoc, List.cons_append]

/-- Of two openers behind which the lines are balanced the nearer one leaves no room for the other. -/
theorem length_le_of_balanced {before before' between between' : List (List Char)}
    {opener opener' : List Char}
    (same : before ++ opener :: between = before' ++ opener' :: between')
    (opens' : isOpener opener' = true) (balanced : Balanced between)
    (balanced' : Balanced between') : between.length ≤ between'.length := by
  by_contra longer
  have lengths := congrArg List.length same
  simp only [List.length_append, List.length_cons] at lengths
  -- the opener that is nearer stands between the farther one and the closer
  rcases List.append_eq_append_iff.1 same with ⟨more, rfl, behind⟩ | ⟨more, rfl, behind⟩
  · cases more with
    | nil =>
      rw [List.append_nil] at lengths
      omega
    | cons first inner =>
      rw [List.cons_append, List.cons.injEq] at behind
      obtain ⟨rfl, rfl⟩ := behind
      obtain ⟨opened, unclosed, -⟩ := entered_opener opens'
      have whole := balanced.1
      have front := balanced.2 inner (List.prefix_append inner _)
      have rest := balanced'.1
      rw [closers_append, openers_append, closers_cons, openers_cons] at whole
      omega
  · rw [List.length_append] at lengths
    omega

theorem matches_iff {front before between : List (List Char)} {opener : List Char} :
    Matches front before opener between ↔
      front = before ++ opener :: between ∧ isOpener opener = true ∧ Balanced between := by
  constructor
  · exact fun m => ⟨m.split, m.opens, m.balanced⟩
  · rintro ⟨rfl, opens, balanced⟩
    exact ⟨rfl, opens, balanced, fun before' opener' between' same opens' balanced' =>
      length_le_of_balanced same opens' balanced balanced'⟩

/-- The innermost conditional behind the lines is the one of the opener that a closer matches. -/
theorem nestingOf_eq_cons_iff {front : List (List Char)} {guard : Bool} {rest : List Bool} :
    nestingOf front = guard :: rest ↔
      ∃ before opener between, Matches front before opener between ∧ isGuard opener = guard ∧
        nestingOf before = rest := by
  constructor
  · intro nesting
    obtain ⟨before, opener, between, split, opens, balanced, same, outside⟩ :=
      exists_split_of_nestingOf nesting
    exact ⟨before, opener, between, matches_iff.2 ⟨split, opens, balanced⟩, same, outside⟩
  · rintro ⟨before, opener, between, m, rfl, rfl⟩
    rw [m.split, nestingOf_of_split m.opens m.balanced]

theorem head?_nestingOf {front : List (List Char)} :
    (nestingOf front).head? = some true ↔
      ∃ before opener between, Matches front before opener between ∧
        LineKind.of opener = .guard := by
  constructor
  · intro first
    cases nesting : nestingOf front with
    | nil =>
      rw [nesting] at first
      cases first
    | cons guard rest =>
      rw [nesting] at first
      obtain rfl : guard = true := Option.some.inj first
      obtain ⟨before, opener, between, m, guard, -⟩ := nestingOf_eq_cons_iff.1 nesting
      exact ⟨before, opener, between, m, of_decide_eq_true guard⟩
  · rintro ⟨before, opener, between, m, guard⟩
    rw [nestingOf_eq_cons_iff.2 ⟨before, opener, between, m, rfl, rfl⟩, isGuard, guard]
    rfl

/-! ### Lines that are kept -/

theorem keptLines_closer (closes : isCloser line = true) (nesting : List Bool) :
    keptLines nesting [line] = if nesting.head? = some true then [] else [line] := by
  rw [keptLines_cons, part?_of_isCloser closes]
  rfl

/-- Only closers depend on the conditionals around them. -/
theorem keptLines_of_isCloser_eq_false (closes : isCloser line = false)
    (nesting nesting' : List Bool) : keptLines nesting [line] = keptLines nesting' [line] := by
  rw [keptLines_cons, keptLines_cons]
  split
  · rfl
  · next closer => exact absurd closer (part?_ne_closer closes)
  · rfl
  · rfl

theorem keptLines_below (top : List Bool) (covered : Covered top.length ls) (below : List Bool) :
    keptLines (top ++ below) ls = keptLines top ls := by
  induction ls using List.reverseRecOn with
  | nil => rfl
  | append_singleton ls line ih =>
    obtain ⟨same, depth⟩ := covered.of_append.foldl_below top below
    rw [keptLines_append, keptLines_append, ih covered.of_append, same]
    cases closes : isCloser line with
    | true =>
      have enough := covered _ List.prefix_rfl
      obtain ⟨opened, closed, -⟩ := entered_closer closes
      rw [closers_append, openers_append] at enough
      rw [keptLines_closer closes, keptLines_closer closes]
      cases inner : ls.foldl (enter part?) top with
      | nil =>
        rw [inner, List.length_nil] at depth
        omega
      | cons first rest => rfl
    | false => rw [keptLines_of_isCloser_eq_false closes]

/-- Where no closer matches what is in front, the lines never close one conditional too many. -/
theorem covered_of_unmatched
    (unmatched : ∀ between line rest, ls = between ++ line :: rest → isCloser line = true →
      ¬ Balanced between) : Covered 0 ls := by
  induction ls using List.reverseRecOn with
  | nil =>
    intro front begins
    rw [List.prefix_nil.1 begins]
    exact Nat.zero_le _
  | append_singleton ls line ih =>
    have covered : Covered 0 ls := by
      refine ih fun between other rest split => unmatched between other (rest ++ [line]) ?_
      rw [split, List.append_assoc, List.cons_append]
    have enough := covered ls List.prefix_rfl
    refine covered.append (openers ls - closers ls) (covered_singleton ?_) (by omega)
    cases closes : isCloser line with
    | true =>
      obtain ⟨opened, closed, -⟩ := entered_closer closes
      have other : closers ls ≠ openers ls := fun same =>
        unmatched ls line [] rfl closes (balanced_iff.2 ⟨same, covered⟩)
      omega
    | false =>
      have closed : closers [line] = 0 := by simp [closers, closes]
      omega

/-- Lines are taken over one after the other, whatever follows.  A closer is dropped just if the
opener that it matches is a guard, and kept if it matches any other opener or none.  A guard that no
closer matches is dropped, and the lines behind it are taken over as if the text began there. -/
theorem keptLines_closers (source : List Char) :
    (canonicalize source).body = unlines ((keptLines [] (lines source)).map renameOutput) ∧
    (∀ front rest, lines source = front ++ rest →
      keptLines [] front <+: keptLines [] (lines source)) ∧
    (∀ front line rest, lines source = front ++ line :: rest → LineKind.of line = .closer →
      (keptLines [] (front ++ [line]) = keptLines [] front ↔
        ∃ before opener between, Matches front before opener between ∧
          LineKind.of opener = .guard) ∧
      ((¬ ∃ before opener between, Matches front before opener between ∧
          LineKind.of opener = .guard) →
        keptLines [] (front ++ [line]) = keptLines [] front ++ [line])) ∧
    ∀ before guard after, lines source = before ++ guard :: after → LineKind.of guard = .guard →
      (∀ between line rest, after = between ++ line :: rest → LineKind.of line = .closer →
        ¬ Balanced between) →
      keptLines [] (lines source) = keptLines [] before ++ keptLines [] after := by
  refine ⟨rfl, fun front rest split => ?_, fun front line rest split kind => ?_,
    fun before guard after split kind unmatched => ?_⟩
  · rw [split, keptLines_append]
    exact List.prefix_append _ _
  · have closes : isCloser line = true := decide_eq_true kind
    rw [← head?_nestingOf, keptLines_append, keptLines_closer closes, nestingOf]
    split
    · next first => exact ⟨iff_of_true (List.append_nil _) first, fun other => absurd first other⟩
    · next other =>
      refine ⟨iff_of_false (fun same => ?_) other, fun _ => rfl⟩
      exact List.cons_ne_nil line [] (List.append_right_eq_self.1 same)
  · have covered : Covered 0 after := covered_of_unmatched fun between line rest split closes =>
      unmatched between line rest split (of_decide_eq_true closes)
    have dropped : keptLines (nestingOf before) (guard :: after) =
        keptLines (true :: nestingOf before) after := by rw [keptLines, kind]
    rw [split, keptLines_append]
    exact congrArg _ (dropped.trans (keptLines_below [] covered (true :: nestingOf before)))

/-- A closer in front of all openers, one that matches a guard, and one that matches an opener behind
a guard that stays open. -/
theorem keptLines_closers_stray :
    let guard := "#ifdef GL_ES".toList
    let opener := "#if FOG".toList
    let closer := "#endif".toList
    let front := [closer, guard, "x".toList]
    let source := "#endif\n#ifdef GL_ES\nx\n#endif\n#ifdef GL_ES\n#if FOG\n#endif".toList
    lines source = front ++ [closer, guard, opener, closer] ∧
      keptLines [] [closer] = [closer] ∧
      Matches front [closer] guard ["x".toList] ∧
      keptLines [] (front ++ [closer]) = keptLines [] front ∧
      keptLines [] (lines source) = keptLines [] (front ++ [closer]) ++ [opener, closer] := by
  intro guard opener closer front source
  have split : lines source = front ++ [closer, guard, opener, closer] := by decide
  obtain ⟨-, -, taken, unclosed⟩ := keptLines_closers source
  have alone : ¬ ∃ before other between, Matches [] before other between ∧
      LineKind.of other = .guard := by
    rintro ⟨before, other, between, m, -⟩
    exact List.append_ne_nil_of_right_ne_nil before (List.cons_ne_nil other between) m.split.symm
  have matched : Matches front [closer] guard ["x".toList] :=
    matches_iff.2 ⟨rfl, by decide, balanced_nil.concat (by decide) (by decide)⟩
  have dropped := (taken front closer [guard, opener, closer] split (by decide)).1.2
    ⟨_, _, _, matched, by decide⟩
  have behind : ∀ between line rest, [opener, closer] = between ++ line :: rest →
      LineKind.of line = .closer → ¬ Balanced between := by
    intro between line rest same closes balanced
    rcases List.cons_eq_append_iff.1 same with ⟨rfl, first⟩ | ⟨more, rfl, behind⟩
    · rw [(List.cons.inj first).1] at closes
      exact absurd closes (by decide)
    · rcases List.cons_eq_append_iff.1 behind with ⟨rfl, -⟩ | ⟨more', -, none⟩
      · exact absurd balanced.1 (by decide)
      · exact List.append_ne_nil_of_right_ne_nil more' (List.cons_ne_nil line rest) none.symm
  have rest := unclosed (front ++ [closer]) guard [opener, closer] split (by decide) behind
  exact ⟨split, (taken [] closer _ split (by decide)).2 alone, matched, dropped, rest⟩

end ShaderFilm.Shader
