import Mathlib.Order.Bounds.Basic
import ShaderFilm.Proofs.Text.Word
import ShaderFilm.Text.Utf8

/-!
# Places of whole words

`StandsAt s word n` says that a word stands at offset `n` of a text as no part of a longer
identifier.  The search for a word yields the least of its places (`findWord_eq_some_iff`), whether
offsets count characters or bytes (`encode_take_le`), and what follows one place has the places of
the text that are behind it, and no others (`standsAt_drop_iff`).
-/

namespace ShaderFilm.Text

/-- The word stands at offset `n` of a text as no part of a longer identifier. -/
def StandsAt (s word : List Char) (n : Nat) : Prop :=
  ∃ before after, s = before ++ word ++ after ∧ before.length = n ∧ EndsApart before ∧
    BeginsApart after

variable {s word : List Char} {n : Nat}

/-! ### The first place -/

theorem standing_iff_exists_standsAt : Standing s word ↔ ∃ n, StandsAt s word n := by
  constructor
  · rintro ⟨before, after, split, ends, begins⟩
    exact ⟨before.length, before, after, split, rfl, ends, begins⟩
  · rintro ⟨n, before, after, split, -, ends, begins⟩
    exact ⟨before, after, split, ends, begins⟩

section Search

variable (ident : ∀ c ∈ word, isIdentChar c = true) (nonempty : word ≠ [])
include ident nonempty

theorem findWord_eq_none_iff : findWord s word = none ↔ ∀ n, ¬ StandsAt s word n := by
  rw [← not_exists, ← standing_iff_exists_standsAt, ← hasWord_iff_standing ident nonempty, hasWord,
    Bool.not_eq_true, Option.isSome_eq_false_iff, Option.isNone_iff_eq_none]

theorem isLeast_of_findWord (found : findWord s word = some n) :
    IsLeast {m | StandsAt s word m} n := by
  obtain ⟨before, after, split, rfl, ends, begins, first⟩ :=
    findWord_eq_some ident nonempty found
  refine ⟨⟨before, after, split, rfl, ends, begins⟩, ?_⟩
  rintro m ⟨before', after', split', rfl, ends', begins'⟩
  exact first before' after' split' ends' begins'

/-- The search yields the first place of a word. -/
theorem findWord_eq_some_iff : findWord s word = some n ↔ IsLeast {m | StandsAt s word m} n := by
  refine ⟨isLeast_of_findWord ident nonempty, fun least => ?_⟩
  cases found : findWord s word with
  | none => exact absurd least.1 ((findWord_eq_none_iff ident nonempty).1 found n)
  | some m => rw [(isLeast_of_findWord ident nonempty found).unique least]

end Search

/-- What comes first among the characters comes first among the bytes. -/
theorem encode_take_le (s : List Char) {m n : Nat} (first : n ≤ m) :
    (encode (s.take n)).length ≤ (encode (s.take m)).length := by
  obtain ⟨k, rfl⟩ := Nat.exists_eq_add_of_le first
  rw [List.take_add, encode, encode, List.flatMap_append, List.length_append]
  exact Nat.le_add_right _ _

/-! ### Places behind a place -/

section Behind

variable (ident : ∀ c ∈ word, isIdentChar c = true) (nonempty : word ≠ [])
  (stands : StandsAt s word n)
include ident stands

/-- Two places of a word do not overlap. -/
theorem StandsAt.add_length_le {m : Nat} (other : StandsAt s word m) (later : n < m) :
    n + word.length ≤ m := by
  obtain ⟨before, after, split, rfl, ends, begins⟩ := stands
  obtain ⟨before', after', split', rfl, ends', begins'⟩ := other
  obtain ⟨between, rfl, -, -⟩ := exists_between ident (split.symm.trans split') ends' later
  simp only [List.length_append]
  omega

include nonempty

/-- The text behind a place has the places of the whole text that are behind it. -/
theorem standsAt_drop_iff (m : Nat) :
    StandsAt (s.drop (n + word.length)) word m ↔ StandsAt s word (n + word.length + m) := by
  obtain ⟨before, after, rfl, rfl, ends, begins⟩ := stands
  rw [← List.length_append, List.drop_left]
  constructor
  · rintro ⟨between, after', rfl, rfl, apart, begins'⟩
    have some := ne_nil_of_beginsApart ident nonempty begins
    refine ⟨before ++ word ++ between, after', by simp only [List.append_assoc], ?_,
      apart.append_left some _, begins'⟩
    rw [List.length_append]
  · rintro ⟨before', after', split, place, ends', begins'⟩
    have later : before.length < before'.length := by
      have := List.length_pos_iff.2 nonempty
      rw [List.length_append] at place
      omega
    obtain ⟨between, rfl, rfl, apart⟩ := exists_between ident split ends' later
    rw [List.length_append, Nat.add_left_cancel_iff] at place
    exact ⟨between, after', rfl, place, apart, begins'⟩

end Behind

end ShaderFilm.Text
