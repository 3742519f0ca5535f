import Mathlib.Data.List.Infix
import Mathlib.Data.List.TakeWhile
import ShaderFilm.Proofs.Text.Rename
import ShaderFilm.Text.Line

/-!
# Occurrences

A word occurs in a text if it is an infix of it.  No occurrence lies across a character that the
word lacks, so what occurs in joined lines occurs in one of them (`isInfix_unlines_iff`).

Replacing a name can make new occurrences of a word where the new name meets the text around it,
and can break others up.  `Clear s word` says that no occurrence of `word` begins inside of `s`,
whatever follows.  A word that is clear of both names, as they are of it, occurs after the
replacement just if it did before (`Renamed.isInfix_iff`); and if the two names are clear of each
other, then the old one occurs no longer (`not_isInfix_replaceAll`).
-/

namespace ShaderFilm.Text

variable {word s t : List Char}

/-! ### Separators -/

theorem isInfix_append_cons_iff {before after : List Char} {c : Char} (lacks : c ∉ word) :
    word <:+: before ++ c :: after ↔ word <:+: before ∨ word <:+: after := by
  constructor
  · intro occurs
    rcases List.infix_append_iff.1 occurs with left | right | ⟨first, second, rfl, ends, begins⟩
    · exact .inl left
    · rcases List.infix_cons_iff.1 right with begins | inner
      · rcases List.prefix_cons_iff.1 begins with rfl | ⟨rest, rfl, -⟩
        · exact .inl (List.nil_infix)
        · exact absurd List.mem_cons_self lacks
      · exact .inr inner
    · rcases List.prefix_cons_iff.1 begins with rfl | ⟨rest, rfl, -⟩
      · rw [List.append_nil]
        exact .inl ends.isInfix
      · exact absurd (by simp) lacks
  · rintro (left | right)
    · exact left.trans (List.prefix_append before _).isInfix
    · exact (List.infix_cons right).trans (List.suffix_append before _).isInfix

theorem isInfix_unlines_iff (lacks : '\n' ∉ word) (nonempty : word ≠ [])
    {ls : List (List Char)} : word <:+: unlines ls ↔ ∃ line ∈ ls, word <:+: line := by
  induction ls with
  | nil => simp [nonempty]
  | cons line rest ih =>
    rw [unlines_cons, isInfix_append_cons_iff lacks, ih]
    simp

theorem isInfix_unlines_of_mem {line : List Char} {ls : List (List Char)} (mem : line ∈ ls) :
    line <:+: unlines ls := by
  obtain ⟨front, rest, rfl⟩ := List.append_of_mem mem
  rw [unlines_append, unlines_cons]
  exact (List.prefix_append line _).isInfix.trans (List.suffix_append (unlines front) _).isInfix

/-! ### Overlaps -/

/-- No occurrence of the word begins inside of `s`, whatever follows: of an end of `s` and the word,
neither begins with the other. -/
def Clear (s word : List Char) : Prop :=
  ∀ part ∈ s.tails, part ≠ [] → ¬ part <+: word ∧ ¬ word <+: part

instance (s word : List Char) : Decidable (Clear s word) :=
  inferInstanceAs (Decidable (∀ part ∈ s.tails, _ → _))

theorem Clear.not_isPrefix_append {part : List Char} (clear : Clear s word) (ends : part <:+ s)
    (nonempty : part ≠ []) (t : List Char) : ¬ word <+: part ++ t := by
  intro begins
  obtain ⟨shorter, longer⟩ := clear part ((List.mem_tails part s).2 ends) nonempty
  rcases List.prefix_or_prefix_of_prefix (List.prefix_append part t) begins with first | second
  · exact shorter first
  · exact longer second

theorem Clear.isInfix_of_append (clear : Clear s word) (occurs : word <:+: s ++ t) :
    word <:+: t := by
  induction s with
  | nil => exact occurs
  | cons c s ih =>
    rcases List.infix_cons_iff.1 occurs with begins | inner
    · exact absurd begins (clear.not_isPrefix_append List.suffix_rfl (List.cons_ne_nil c s) t)
    · refine ih (fun part mem => clear part ?_) inner
      rw [List.tails_cons]
      exact List.mem_cons_of_mem _ mem

/-! ### Occurrences in renamed texts -/

variable {old new : List Char}

namespace Renamed

/-- The beginning of a text is kept if it is an end of a word that is clear of the old name. -/
theorem isPrefix (clear : Clear word old) {part : List Char} (ends : part <:+ word)
    (h : Renamed old new s t) (begins : part <+: s) : part <+: t := by
  induction h generalizing part with
  | nil => exact begins
  | cons c _ ih =>
    rcases List.prefix_cons_iff.1 begins with rfl | ⟨rest, rfl, inner⟩
    · exact List.nil_prefix
    · have shorter : rest <:+ word := (List.suffix_cons c rest).trans ends
      exact List.cons_prefix_cons.2 ⟨rfl, ih shorter inner⟩
  | @name s t _ _ =>
    by_cases empty : part = []
    · rw [empty]
      exact List.nil_prefix
    · obtain ⟨longer, shorter⟩ := clear part ((List.mem_tails part word).2 ends) empty
      rcases List.prefix_or_prefix_of_prefix begins (List.prefix_append old s) with first | second
      · exact absurd first longer
      · exact absurd second shorter

theorem isInfix (inOld : Clear old word) (ofOld : Clear word old) (h : Renamed old new s t)
    (occurs : word <:+: s) : word <:+: t := by
  induction h with
  | nil => exact occurs
  | cons c rest ih =>
    rcases List.infix_cons_iff.1 occurs with begins | inner
    · exact (isPrefix ofOld List.suffix_rfl (rest.cons c) begins).isInfix
    · exact List.infix_cons (ih inner)
  | @name s t _ ih =>
    exact (ih (inOld.isInfix_of_append occurs)).trans (List.suffix_append new t).isInfix

theorem isInfix_iff (inOld : Clear old word) (ofOld : Clear word old) (inNew : Clear new word)
    (ofNew : Clear word new) (h : Renamed old new s t) : word <:+: t ↔ word <:+: s :=
  ⟨isInfix inNew ofNew h.symm, isInfix inOld ofOld h⟩

end Renamed

/-- No occurrence is left, nor does one arise where a new name meets what stands around it. -/
theorem not_isInfix_replaceAll (nonempty : old ≠ []) (inNew : Clear new old)
    (inOld : Clear old new) (s : List Char) : ¬ old <:+: replaceAll old new s := by
  induction s using occurrence_induction nonempty with
  | nil => exact mt List.infix_nil.1 nonempty
  | name s ih =>
    rw [replaceAll_append nonempty]
    exact mt inNew.isInfix_of_append ih
  | cons c s other ih =>
    rw [replaceAll_cons other]
    intro occurs
    rcases List.infix_cons_iff.1 occurs with begins | inner
    · -- an occurrence at the front has been there before
      have back : Renamed new old (c :: replaceAll old new s) (c :: s) :=
        (renamed_replaceAll nonempty new s).symm.cons c
      exact other (back.isPrefix inOld List.suffix_rfl begins)
    · exact ih inner

/-! ### Parts of texts -/

theorem isInfix_of_findWord {n : Nat} (h : findWord s word = some n) : word <:+: s := by
  obtain ⟨before, after, split, -⟩ := exists_of_mem_matchOffsets (List.mem_of_find?_eq_some h)
  exact ⟨before, after, split.symm⟩

theorem trimStart_isSuffix (s : List Char) : trimStart s <:+ s := List.dropWhile_suffix isBlank

theorem trimEnd_isPrefix (s : List Char) : trimEnd s <+: s := by
  have ends : s.reverse.dropWhile isBlank <:+ s.reverse := List.dropWhile_suffix isBlank
  rwa [← List.reverse_prefix, List.reverse_reverse] at ends

theorem trim_isInfix (s : List Char) : trim s <:+: s :=
  (trimEnd_isPrefix (trimStart s)).isInfix.trans (trimStart_isSuffix s).isInfix

theorem trim_eq_nil_iff : trim s = [] ↔ ∀ c ∈ s, isBlank c = true := by
  rw [trim, trimEnd, List.reverse_eq_nil_iff, List.dropWhile_eq_nil_iff, trimStart]
  constructor
  · intro blank c mem
    rw [← List.takeWhile_append_dropWhile (p := isBlank) (l := s)] at mem
    obtain front | behind := List.mem_append.1 mem
    · exact List.mem_takeWhile_imp front
    · exact blank c (List.mem_reverse.2 behind)
  · intro blank c mem
    exact blank c ((List.dropWhile_sublist isBlank).subset (List.mem_reverse.1 mem))

theorem cutAt_eq_some {pattern before after : List Char}
    (h : cutAt pattern s = some (before, after)) : s = before ++ pattern ++ after := by
  induction s generalizing before with
  | nil =>
    rw [cutAt] at h
    split at h
    · next empty =>
      cases h
      simp [List.isEmpty_iff.1 empty]
    · cases h
  | cons c s ih =>
    rw [cutAt] at h
    split at h
    · next here =>
      cases h
      obtain ⟨rest, split⟩ := List.isPrefixOf_iff_prefix.1 here
      simp [← split]
    · obtain ⟨⟨first, second⟩, cut, same⟩ := Option.map_eq_some_iff.1 h
      cases same
      rw [ih cut]
      rfl

/-- Each of the parts between characters of no identifier lies apart from what stands around it. -/
theorem exists_of_mem_splitOn {c : Char} (free : isIdentChar c = false) {part : List Char}
    (mem : part ∈ s.splitOn c) :
    ∃ before after, s = before ++ (part ++ after) ∧ EndsApart before ∧ BeginsApart after := by
  induction n : s.length using Nat.strongRecOn generalizing s with
  | _ n ih =>
    by_cases cut : c ∈ s
    · obtain ⟨front, rest, rfl, lacks⟩ := List.eq_append_cons_of_mem cut
      rw [List.splitOn_append_cons_self_of_not_mem lacks] at mem
      rcases List.mem_cons.1 mem with rfl | later
      · refine ⟨[], c :: rest, rfl, by simp [EndsApart], fun d first => ?_⟩
        rwa [← Option.some.inj first]
      · rw [List.length_append, List.length_cons] at n
        obtain ⟨before, after, rfl, ends, begins⟩ := ih rest.length (by omega) later rfl
        exact ⟨front ++ c :: before, after, by simp,
          (ends.cons free).append_left (List.cons_ne_nil c before) front, begins⟩
    · rw [List.splitOn_eq_singleton cut, List.mem_singleton] at mem
      exact ⟨[], [], by simp [mem], by simp [EndsApart], by simp [BeginsApart]⟩

/-- A part that lies apart is found again where names are replaced. -/
theorem replaceAll_isInfix (nonempty : old ≠ []) (ident : ∀ c ∈ old, isIdentChar c = true)
    {before after : List Char} (ends : EndsApart before) (begins : BeginsApart after) :
    replaceAll old new s <:+: replaceAll old new (before ++ (s ++ after)) := by
  rw [replaceAll_append_of_apart nonempty ident (.inl ends),
    replaceAll_append_of_apart nonempty ident (.inr begins)]
  exact ⟨_, _, List.append_assoc _ _ _⟩

theorem words_cons_of_blank {c : Char} (blank : isBlank c = true) (s : List Char) :
    words (c :: s) = words s :=
  if_pos blank

theorem words_cons_of_solid {c : Char} (solid : isBlank c = false) (s : List Char) :
    words (c :: s) =
      (c :: s.takeWhile (!isBlank ·)) :: words (s.dropWhile (!isBlank ·)) := by
  induction s generalizing c with
  | nil => exact if_neg (ne_true_of_eq_false solid)
  | cons d s ih =>
    refine (if_neg (ne_true_of_eq_false solid)).trans ?_
    cases blank : isBlank d with
    | true =>
      rw [List.takeWhile_cons_of_neg (by simp [blank]),
        List.dropWhile_cons_of_neg (by simp [blank])]
      exact if_pos blank
    | false =>
      refine (if_neg (ne_true_of_eq_false blank)).trans ?_
      rw [ih blank, List.takeWhile_cons_of_pos (by simp [blank]),
        List.dropWhile_cons_of_pos (by simp [blank])]

theorem isInfix_of_mem_words {s w : List Char} (mem : w ∈ words s) : w <:+: s := by
  induction n : s.length using Nat.strongRecOn generalizing s with
  | _ n ih =>
    cases s with
    | nil => cases mem
    | cons c s =>
      cases blank : isBlank c with
      | true =>
        rw [words_cons_of_blank blank] at mem
        exact List.infix_cons (ih s.length (by simp [← n]) mem rfl)
      | false =>
        rw [words_cons_of_solid blank] at mem
        rcases List.mem_cons.1 mem with rfl | later
        · exact (List.cons_prefix_cons.2 ⟨rfl, List.takeWhile_prefix _⟩).isInfix
        · have rest : s.dropWhile (!isBlank ·) <:+ s := List.dropWhile_suffix _
          have shorter := rest.length_le
          have inner := ih _ (by simp at n; omega) later rfl
          exact List.infix_cons (inner.trans rest.isInfix)

end ShaderFilm.Text
