import ShaderFilm.Proofs.Text.Word
import ShaderFilm.Text.Blank

/-!
# Renamed texts

`Renamed old new s t` says that `t` is `s` with some occurrences of `old` replaced by `new`, which
is how a text relates to the one in which all of them are replaced (`renamed_replaceAll`).  Where
both names are identifiers, trimming, cutting at blanks and looking for whole words go along with
it, and a word that lacks a character of both names is the same on either side (`Renamed.eq_iff`).
-/

namespace ShaderFilm.Text

/-! ### Blanks -/

theorem isBlank_of_isIdentChar {c : Char} (h : isIdentChar c = true) : isBlank c = false := by
  delta isIdentChar Char.isAlphanum Char.isAlpha Char.isUpper Char.isLower Char.isDigit at h
  simp only [Bool.or_eq_true, Bool.and_eq_true, decide_eq_true_eq, beq_iff_eq, ge_iff_le,
    UInt32.le_iff_toNat_le] at h
  change ((((65 ≤ c.toNat ∧ c.toNat ≤ 90) ∨ (97 ≤ c.toNat ∧ c.toNat ≤ 122)) ∨
    (48 ≤ c.toNat ∧ c.toNat ≤ 57)) ∨ c = '_') at h
  simp only [isBlank, Bool.or_eq_false_iff, Bool.and_eq_false_iff, decide_eq_false_iff_not,
    beq_eq_false_iff_ne]
  rcases h with letterOrDigit | rfl
  · omega
  · decide

theorem isIdentChar_of_isBlank {c : Char} (h : isBlank c = true) : isIdentChar c = false := by
  cases ident : isIdentChar c with
  | false => rfl
  | true =>
    rw [isBlank_of_isIdentChar ident] at h
    cases h

theorem trimEnd_concat_blank {c : Char} (blank : isBlank c = true) (s : List Char) :
    trimEnd (s ++ [c]) = trimEnd s := by
  rw [trimEnd, List.reverse_append, List.reverse_singleton, List.singleton_append,
    List.dropWhile_cons_of_pos blank, trimEnd]

theorem trimStart_concat_blank {c : Char} (blank : isBlank c = true) (s : List Char) :
    trimStart (s ++ [c]) = if trimStart s = [] then [] else trimStart s ++ [c] := by
  rw [trimStart, List.dropWhile_append, trimStart]
  simp [blank]

theorem trim_concat_blank {c : Char} (blank : isBlank c = true) (s : List Char) :
    trim (s ++ [c]) = trim s := by
  rw [trim, trimStart_concat_blank blank]
  split
  · next empty => rw [trim, empty]
  · rw [trimEnd_concat_blank blank, trim]

theorem firstWord_concat_blank {c : Char} (blank : isBlank c = true) (s : List Char) :
    firstWord (s ++ [c]) = firstWord s := by
  refine firstWord_append (fun d first => ?_) s
  rw [← Option.some.inj first]
  exact isIdentChar_of_isBlank blank

theorem firstWord_trimEnd (s : List Char) : firstWord (trimEnd s) = firstWord s := by
  have backwards (r : List Char) : firstWord (r.dropWhile isBlank).reverse = firstWord r.reverse := by
    induction r with
    | nil => rfl
    | cons c r ih =>
      cases blank : isBlank c with
      | true =>
        rw [List.dropWhile_cons_of_pos blank, ih, List.reverse_cons, firstWord_concat_blank blank]
      | false => simp [blank]
  rw [trimEnd, backwards, List.reverse_reverse]

theorem Standing.trimStart {s word : List Char} (ident : ∀ c ∈ word, isIdentChar c = true)
    (nonempty : word ≠ []) (stands : Standing s word) : Standing (trimStart s) word := by
  induction s with
  | nil => exact stands
  | cons c s ih =>
    cases blank : isBlank c with
    | true =>
      rw [Text.trimStart, List.dropWhile_cons_of_pos blank]
      exact ih (stands.of_cons (isIdentChar_of_isBlank blank) ident nonempty)
    | false => simpa [Text.trimStart, blank] using stands

theorem Standing.of_trimStart {s word : List Char} (stands : Standing (Text.trimStart s) word) :
    Standing s word := by
  induction s with
  | nil => exact stands
  | cons c s ih =>
    cases blank : isBlank c with
    | true =>
      rw [Text.trimStart, List.dropWhile_cons_of_pos blank] at stands
      exact (ih stands).cons (isIdentChar_of_isBlank blank)
    | false => simpa [Text.trimStart, blank] using stands

theorem cutAtBlank_cons (c : Char) (s : List Char) :
    cutAtBlank (c :: s) =
      if isBlank c then ([], s) else (c :: (cutAtBlank s).1, (cutAtBlank s).2) := by
  cases blank : isBlank c <;> simp [cutAtBlank, blank]

theorem cutAtBlank_append {word : List Char} (solid : ∀ c ∈ word, isBlank c = false)
    (s : List Char) : cutAtBlank (word ++ s) = (word ++ (cutAtBlank s).1, (cutAtBlank s).2) := by
  induction word with
  | nil => rfl
  | cons c word ih =>
    have first : isBlank c = false := solid c List.mem_cons_self
    have inner := ih fun d mem => solid d (List.mem_cons_of_mem c mem)
    rw [List.cons_append, cutAtBlank_cons, first, inner]
    rfl

/-- A blank at the end of a text is part of what follows the first word, or it is lost. -/
theorem cutAtBlank_concat_blank {c : Char} (blank : isBlank c = true) (s : List Char) :
    (cutAtBlank (s ++ [c])).1 = (cutAtBlank s).1 ∧
      trim (cutAtBlank (s ++ [c])).2 = trim (cutAtBlank s).2 := by
  induction s with
  | nil =>
    rw [List.nil_append, cutAtBlank_cons, if_pos blank]
    exact ⟨rfl, rfl⟩
  | cons d s ih =>
    rw [List.cons_append, cutAtBlank_cons, cutAtBlank_cons]
    cases isBlank d with
    | true => exact ⟨rfl, trim_concat_blank blank s⟩
    | false => exact ⟨congrArg (d :: ·) ih.1, ih.2⟩

/-! ### Renaming -/

/-- The second text is the first with some occurrences of `old` replaced by `new`. -/
inductive Renamed (old new : List Char) : List Char → List Char → Prop
  | nil : Renamed old new [] []
  | cons (c : Char) {s t : List Char} (rest : Renamed old new s t) :
      Renamed old new (c :: s) (c :: t)
  | name {s t : List Char} (rest : Renamed old new s t) : Renamed old new (old ++ s) (new ++ t)

/-- Two names that are identifiers or parts of such. -/
structure Names (old new : List Char) : Prop where
  old_ne_nil : old ≠ []
  new_ne_nil : new ≠ []
  old_ident : ∀ c ∈ old, isIdentChar c = true
  new_ident : ∀ c ∈ new, isIdentChar c = true

variable {old new s t s' t' : List Char}

theorem replaceFrom_eq_drop (old new s : List Char) (skip : Nat) :
    replaceFrom old new s skip = replaceAll old new (s.drop skip) := by
  induction s generalizing skip with
  | nil => simp [replaceFrom, replaceAll]
  | cons c s ih =>
    cases skip with
    | zero => rfl
    | succ skip => exact ih skip

theorem replaceAll_append (nonempty : old ≠ []) (new s : List Char) :
    replaceAll old new (old ++ s) = new ++ replaceAll old new s := by
  obtain ⟨c, rest, rfl⟩ := List.exists_cons_of_ne_nil nonempty
  have here : (c :: rest).isPrefixOf (c :: (rest ++ s)) = true :=
    List.isPrefixOf_iff_prefix.2 (List.prefix_append (c :: rest) s)
  rw [replaceAll, List.cons_append, replaceFrom, if_pos here, replaceFrom_eq_drop]
  simp

theorem replaceAll_cons {c : Char} (other : ¬ old <+: c :: s) :
    replaceAll old new (c :: s) = c :: replaceAll old new s := by
  rw [replaceAll, replaceFrom, if_neg (mt List.isPrefixOf_iff_prefix.1 other)]
  rfl

/-- To show something of every text, show it of a text that begins with `old` from what follows, and
of a text that begins otherwise from what follows its first character. -/
theorem occurrence_induction {motive : List Char → Prop} (nonempty : old ≠ []) (nil : motive [])
    (name : ∀ s, motive s → motive (old ++ s))
    (cons : ∀ c s, ¬ old <+: c :: s → motive s → motive (c :: s)) (s : List Char) : motive s := by
  induction n : s.length using Nat.strongRecOn generalizing s with
  | _ n ih =>
    cases s with
    | nil => exact nil
    | cons c rest =>
      by_cases here : old <+: c :: rest
      · obtain ⟨after, split⟩ := here
        rw [← split]
        refine name after (ih after.length ?_ after rfl)
        have := List.length_pos_iff.2 nonempty
        rw [← n, ← split, List.length_append]
        omega
      · refine cons c rest here (ih rest.length ?_ rest rfl)
        simp [← n]

/-- A name at the front of a text does not reach beyond a place where identifiers end or begin. -/
theorem isPrefix_of_apart (ident : ∀ c ∈ old, isIdentChar c = true) (nonempty : s ≠ [])
    (apart : EndsApart s ∨ BeginsApart t) (here : old <+: s ++ t) : old <+: s := by
  rcases List.prefix_or_prefix_of_prefix here (List.prefix_append s t) with within | ⟨rest, rfl⟩
  · exact within
  · rcases apart with ends | begins
    · have empty : s = [] :=
        ends.eq_nil_of_ident fun c mem => ident c (List.mem_append_left rest mem)
      exact absurd empty nonempty
    · rw [List.prefix_append_right_inj] at here
      cases rest with
      | nil => simp
      | cons c rest =>
        obtain ⟨more, rfl⟩ := here
        have free := begins c rfl
        rw [ident c (by simp)] at free
        cases free

/-- Where identifiers end or begin, a text may be cut before names are replaced in it. -/
theorem replaceAll_append_of_apart (nonempty : old ≠ []) (ident : ∀ c ∈ old, isIdentChar c = true)
    (apart : EndsApart s ∨ BeginsApart t) :
    replaceAll old new (s ++ t) = replaceAll old new s ++ replaceAll old new t := by
  induction s using occurrence_induction nonempty with
  | nil => rfl
  | name s ih =>
    have inner := ih (apart.imp_left EndsApart.of_append)
    rw [List.append_assoc, replaceAll_append nonempty, replaceAll_append nonempty, inner,
      List.append_assoc]
  | cons c s other ih =>
    have inner := ih (apart.imp_left EndsApart.of_cons)
    have across : ¬ old <+: c :: (s ++ t) :=
      mt (isPrefix_of_apart ident (List.cons_ne_nil c s) apart) other
    rw [List.cons_append, replaceAll_cons across, replaceAll_cons other, inner, List.cons_append]

theorem renamed_replaceAll (nonempty : old ≠ []) (new s : List Char) :
    Renamed old new s (replaceAll old new s) := by
  induction s using occurrence_induction nonempty with
  | nil => exact .nil
  | name s ih =>
    rw [replaceAll_append nonempty]
    exact .name ih
  | cons c s other ih =>
    rw [replaceAll_cons other]
    exact .cons c ih

theorem Names.symm (names : Names old new) : Names new old :=
  ⟨names.2, names.1, names.4, names.3⟩

theorem Names.reverse (names : Names old new) : Names old.reverse new.reverse where
  old_ne_nil := mt List.reverse_eq_nil_iff.1 names.old_ne_nil
  new_ne_nil := mt List.reverse_eq_nil_iff.1 names.new_ne_nil
  old_ident c mem := names.old_ident c (List.mem_reverse.1 mem)
  new_ident c mem := names.new_ident c (List.mem_reverse.1 mem)

namespace Renamed

theorem symm (h : Renamed old new s t) : Renamed new old t s := by
  induction h with
  | nil => exact .nil
  | cons c _ ih => exact .cons c ih
  | name _ ih => exact .name ih

theorem append (h : Renamed old new s t) (h' : Renamed old new s' t') :
    Renamed old new (s ++ s') (t ++ t') := by
  induction h with
  | nil => exact h'
  | cons c _ ih => exact .cons c ih
  | name _ ih =>
    rw [List.append_assoc, List.append_assoc]
    exact .name ih

theorem reverse (h : Renamed old new s t) :
    Renamed old.reverse new.reverse s.reverse t.reverse := by
  induction h with
  | nil => exact .nil
  | cons c _ ih =>
    rw [List.reverse_cons, List.reverse_cons]
    exact ih.append (.cons c .nil)
  | name _ ih =>
    rw [List.reverse_append, List.reverse_append]
    have last : Renamed old.reverse new.reverse (old.reverse ++ []) (new.reverse ++ []) :=
      .name .nil
    rw [List.append_nil, List.append_nil] at last
    exact ih.append last

/-- A text that lacks a character of the old name stays as it is. -/
theorem eq_of_not_mem (h : Renamed old new s t) {c : Char} (mem : c ∈ old) (lacks : c ∉ s) :
    s = t := by
  induction h with
  | nil => rfl
  | cons d _ ih => rw [ih (mt (List.mem_cons_of_mem d) lacks)]
  | name _ _ => exact absurd (List.mem_append_left _ mem) lacks

theorem not_mem (h : Renamed old new s t) {c : Char} (fresh : c ∉ new) (lacks : c ∉ s) : c ∉ t := by
  induction h with
  | nil => exact lacks
  | cons d _ ih =>
    obtain ⟨other, inner⟩ := not_or.1 (mt List.mem_cons.2 lacks)
    exact mt List.mem_cons.1 (not_or.2 ⟨other, ih inner⟩)
  | name _ ih =>
    have inner := ih (mt (List.mem_append_right _) lacks)
    exact mt List.mem_append.1 (not_or.2 ⟨fresh, inner⟩)

theorem eq_iff (h : Renamed old new s t) {c : Char} {word : List Char} (mem : c ∈ old)
    (mem' : c ∈ new) (lacks : c ∉ word) : t = word ↔ s = word := by
  constructor
  · rintro rfl
    exact (h.symm.eq_of_not_mem mem' lacks).symm
  · rintro rfl
    exact (h.eq_of_not_mem mem lacks).symm

/-! ### Parts of renamed texts -/

section Parts

variable {p : Char → Bool}

theorem takeWhile (h : Renamed old new s t) (inOld : ∀ c ∈ old, p c = true)
    (inNew : ∀ c ∈ new, p c = true) : Renamed old new (s.takeWhile p) (t.takeWhile p) := by
  induction h with
  | nil => exact .nil
  | cons c _ ih =>
    cases pc : p c with
    | true =>
      rw [List.takeWhile_cons_of_pos pc, List.takeWhile_cons_of_pos pc]
      exact .cons c ih
    | false => simp [pc, Renamed.nil]
  | name _ ih =>
    rw [List.takeWhile_append_of_pos inOld, List.takeWhile_append_of_pos inNew]
    exact .name ih

theorem filter (h : Renamed old new s t) (inOld : ∀ c ∈ old, p c = true)
    (inNew : ∀ c ∈ new, p c = true) : Renamed old new (s.filter p) (t.filter p) := by
  induction h with
  | nil => exact .nil
  | cons c _ ih =>
    cases pc : p c with
    | true =>
      rw [List.filter_cons_of_pos pc, List.filter_cons_of_pos pc]
      exact .cons c ih
    | false => simpa [pc] using ih
  | name _ ih =>
    rw [List.filter_append, List.filter_append, List.filter_eq_self.2 inOld,
      List.filter_eq_self.2 inNew]
    exact .name ih

end Parts

/-! ### Trimming and cutting renamed texts -/

section Names

variable (names : Names old new)
include names

theorem trimStart (h : Renamed old new s t) : Renamed old new (trimStart s) (trimStart t) := by
  induction h with
  | nil => exact .nil
  | @cons c s t rest ih =>
    cases blank : isBlank c with
    | true =>
      rw [Text.trimStart, Text.trimStart, List.dropWhile_cons_of_pos blank,
        List.dropWhile_cons_of_pos blank]
      exact ih
    | false => simpa [Text.trimStart, blank] using rest.cons c
  | @name s t rest _ =>
    have solid {word : List Char} (nonempty : word ≠ []) (ident : ∀ c ∈ word, isIdentChar c = true)
        (s : List Char) : Text.trimStart (word ++ s) = word ++ s := by
      obtain ⟨c, word, rfl⟩ := List.exists_cons_of_ne_nil nonempty
      have first : isBlank c = false := isBlank_of_isIdentChar (ident c List.mem_cons_self)
      simp [Text.trimStart, first]
    rw [solid names.old_ne_nil names.old_ident, solid names.new_ne_nil names.new_ident]
    exact .name rest

theorem trim (h : Renamed old new s t) : Renamed old new (trim s) (trim t) := by
  have ends := (Renamed.trimStart names.reverse (Renamed.trimStart names h).reverse).reverse
  rwa [List.reverse_reverse, List.reverse_reverse] at ends

theorem firstWord (h : Renamed old new s t) : Renamed old new (firstWord s) (firstWord t) :=
  h.takeWhile names.old_ident names.new_ident

theorem cutAtBlank (h : Renamed old new s t) :
    Renamed old new (cutAtBlank s).1 (cutAtBlank t).1 ∧
      Renamed old new (cutAtBlank s).2 (cutAtBlank t).2 := by
  induction h with
  | nil => exact ⟨.nil, .nil⟩
  | cons c rest ih =>
    rw [cutAtBlank_cons, cutAtBlank_cons]
    cases isBlank c with
    | true => exact ⟨.nil, rest⟩
    | false => exact ⟨ih.1.cons c, ih.2⟩
  | name rest ih =>
    rw [cutAtBlank_append fun c mem => isBlank_of_isIdentChar (names.old_ident c mem),
      cutAtBlank_append fun c mem => isBlank_of_isIdentChar (names.new_ident c mem)]
    exact ⟨ih.1.name, ih.2⟩

/-- The first character is the same if an identifier may not begin with it. -/
theorem head?_eq_some_iff (h : Renamed old new s t) {c : Char} (free : isIdentChar c = false) :
    t.head? = some c ↔ s.head? = some c := by
  have other {word : List Char} (nonempty : word ≠ []) (ident : ∀ c ∈ word, isIdentChar c = true)
      (s : List Char) : (word ++ s).head? ≠ some c := by
    obtain ⟨d, word, rfl⟩ := List.exists_cons_of_ne_nil nonempty
    intro first
    rw [← Option.some.inj first, ident d List.mem_cons_self] at free
    cases free
  cases h with
  | nil => rfl
  | cons d rest => rfl
  | @name s t rest =>
    exact iff_of_false (other names.new_ne_nil names.new_ident t)
      (other names.old_ne_nil names.old_ident s)

/-! ### Whole words of renamed texts -/

theorem beginsApart (h : Renamed old new s t) (apart : BeginsApart s) : BeginsApart t := by
  cases h with
  | nil => exact apart
  | cons c rest => exact apart
  | name rest =>
    obtain ⟨c, word, rfl⟩ := List.exists_cons_of_ne_nil names.old_ne_nil
    have free := apart c rfl
    rw [names.old_ident c List.mem_cons_self] at free
    cases free

theorem endsApart (h : Renamed old new s t) (apart : EndsApart s) : EndsApart t := by
  rw [← List.reverse_reverse s, endsApart_reverse_iff] at apart
  rw [← List.reverse_reverse t, endsApart_reverse_iff]
  exact Renamed.beginsApart names.reverse h.reverse apart

/-- No occurrence of a name lies across the end of a text that an identifier may not go on from. -/
theorem exists_append {before : List Char} (h : Renamed old new (before ++ s) t)
    (apart : EndsApart before) :
    ∃ before' rest, t = before' ++ rest ∧ Renamed old new before before' ∧
      Renamed old new s rest := by
  generalize whole : before ++ s = u at h
  induction h generalizing before with
  | nil =>
    obtain ⟨rfl, rfl⟩ := List.append_eq_nil_iff.1 whole
    exact ⟨[], [], rfl, .nil, .nil⟩
  | @cons c u t rest ih =>
    cases before with
    | nil =>
      subst whole
      exact ⟨[], c :: t, rfl, .nil, .cons c rest⟩
    | cons d before =>
      rw [List.cons_append, List.cons.injEq] at whole
      obtain ⟨rfl, whole⟩ := whole
      obtain ⟨before', after, rfl, first, second⟩ := ih apart.of_cons whole
      exact ⟨d :: before', after, rfl, .cons d first, second⟩
  | @name u t rest ih =>
    rcases List.append_eq_append_iff.1 whole with ⟨more, rfl, rfl⟩ | ⟨more, rfl, split⟩
    · cases before with
      | nil => exact ⟨[], new ++ t, rfl, .nil, .name rest⟩
      | cons d before =>
        have empty : d :: before = [] := apart.eq_nil_of_ident fun c mem =>
          names.old_ident c (List.mem_append_left more mem)
        cases empty
    · obtain ⟨before', after, rfl, first, second⟩ := ih apart.of_append split.symm
      exact ⟨new ++ before', after, by rw [List.append_assoc], .name first, second⟩

/-- A whole word that lacks a character of the old name stays where it is. -/
theorem standing (h : Renamed old new s t) {word : List Char} {c : Char} (mem : c ∈ old)
    (lacks : c ∉ word) (stands : Standing s word) : Standing t word := by
  obtain ⟨before, after, rfl, ends, begins⟩ := stands
  rw [List.append_assoc] at h
  obtain ⟨before', rest, rfl, first, second⟩ := exists_append names h ends
  -- the end of the word is found by reading backwards
  have mirrored := second.reverse
  rw [List.reverse_append] at mirrored
  obtain ⟨after', word', split, third, fourth⟩ :=
    exists_append names.reverse mirrored (endsApart_reverse_iff.2 begins)
  have same : word.reverse = word' :=
    fourth.eq_of_not_mem (List.mem_reverse.2 mem) (mt List.mem_reverse.1 lacks)
  refine ⟨before', after'.reverse, ?_, endsApart names first ends, ?_⟩
  · rw [← List.reverse_reverse rest, split, ← same, List.reverse_append, List.reverse_reverse,
      List.append_assoc]
  · rw [← endsApart_reverse_iff, List.reverse_reverse]
    exact endsApart names.reverse third (endsApart_reverse_iff.2 begins)

theorem standing_iff (h : Renamed old new s t) {word : List Char} {c : Char} (mem : c ∈ old)
    (mem' : c ∈ new) (lacks : c ∉ word) : Standing t word ↔ Standing s word :=
  ⟨standing names.symm h.symm mem' lacks, standing names h mem lacks⟩

end Names

end Renamed

end ShaderFilm.Text
