/-!
# Arithmetic on words

The sum or product of words may be too large for a word, and a difference may be below zero.  It is
settled when a program is built whether it stops there or goes on with what is left of the number.
-/

namespace ShaderFilm.Number

/-- What a program does with a number that is no word. -/
inductive Arithmetic where
  /-- It stops. -/
  | checked
  /-- It counts modulo the number of words. -/
  | wrapping
  deriving DecidableEq, Repr

namespace Arithmetic

/-- The word, of the words below `limit`, that a program goes on with; none if it stops. -/
def word? (limit n : Nat) : Arithmetic → Option Nat
  | checked => if n < limit then some n else none
  | wrapping => some (n % limit)

/-- A sum of 32-bit words. -/
def add? (a : Arithmetic) (m n : UInt32) : Option UInt32 :=
  (a.word? UInt32.size (m.toNat + n.toNat)).map UInt32.ofNat

/-- A difference of 32-bit words. -/
def sub? (a : Arithmetic) (m n : UInt32) : Option UInt32 :=
  if a = checked ∧ m < n then none else some (m - n)

variable {limit m n : Nat}

theorem word?_of_lt (a : Arithmetic) (fits : n < limit) : a.word? limit n = some n := by
  cases a with
  | checked => exact if_pos fits
  | wrapping => exact congrArg some (Nat.mod_eq_of_lt fits)

theorem word?_checked_of_le (carry : limit ≤ n) : checked.word? limit n = none :=
  if_neg (Nat.not_lt.2 carry)

theorem word?_checked_eq_some_iff : checked.word? limit n = some m ↔ n < limit ∧ n = m := by
  rw [word?, Option.ite_none_right_eq_some, Option.some.injEq]

theorem lt_of_word?_eq_some {a : Arithmetic} (some : a.word? limit n = some m) (any : 0 < limit) :
    m < limit := by
  cases a with
  | checked =>
    obtain ⟨fits, rfl⟩ := word?_checked_eq_some_iff.1 some
    exact fits
  | wrapping =>
    obtain rfl := Option.some.inj some
    exact Nat.mod_lt n any

/-- A number is kept just if it is a word. -/
theorem eq_iff_of_word?_eq_some {a : Arithmetic} (some : a.word? limit n = some m)
    (any : 0 < limit) : m = n ↔ n < limit := by
  constructor
  · rintro rfl
    exact lt_of_word?_eq_some some any
  · intro fits
    exact Option.some.inj (some.symm.trans (a.word?_of_lt fits))

/-! ### 32-bit words -/

section Word32

variable {m k : UInt32}

/-- The sum of two words, where it is a word. -/
theorem add?_of_lt (a : Arithmetic) (fits : m.toNat + k.toNat < UInt32.size) :
    a.add? m k = some (m + k) := by
  have same : UInt32.ofNat (m.toNat + k.toNat) = m + k := by
    rw [UInt32.ofNat_add, UInt32.ofNat_toNat, UInt32.ofNat_toNat]
  rw [add?, a.word?_of_lt fits, Option.map_some, same]

theorem add?_checked_of_le (carry : UInt32.size ≤ m.toNat + k.toNat) : checked.add? m k = none := by
  rw [add?, word?_checked_of_le carry, Option.map_none]

/-- The sum of two words, whose carry may be lost. -/
theorem add?_wrapping (m k : UInt32) : wrapping.add? m k = some (m + k) := by
  refine congrArg some (UInt32.toNat_inj.1 ?_)
  rw [UInt32.toNat_ofNat_of_lt' (Nat.mod_lt _ (by decide)), UInt32.toNat_add]

theorem sub?_of_le (a : Arithmetic) (le : k ≤ m) : a.sub? m k = some (m - k) :=
  if_neg fun borrow => UInt32.not_lt.2 le borrow.2

end Word32

end Arithmetic

end ShaderFilm.Number
