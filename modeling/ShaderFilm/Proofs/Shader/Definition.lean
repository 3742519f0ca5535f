import ShaderFilm.Proofs.Shader.Comment

/-!
# Definitions of functions

The search for a definition of a function goes on behind each occurrence of its name that is none.
It yields whether there is some occurrence of the name, standing alone, behind `void` and before an
opening parenthesis (`definesFrom_iff`): where the search goes on, no occurrence is missed, and none
arises, for the name that was passed over does not stand at the end of what is left.  Blanks at the
end of the code are of no concern to it (`definesFrom_concat_blank`).
-/

namespace ShaderFilm.Shader

open ShaderFilm.Text

/-- Somewhere in `code`, which follows `front`, the name stands alone between `void` and an opening
parenthesis, blanks aside. -/
def Defining (front code name : List Char) : Prop :=
  ∃ before after, code = before ++ name ++ after ∧ EndsApart before ∧ BeginsApart after ∧
    (trimStart after).head? = some '(' ∧ "void".toList <:+ trimEnd (front ++ before)

variable {name : List Char}

/-- A definition is at the first occurrence of the name, or else behind it. -/
theorem defining_append_iff (ident : ∀ c ∈ name, isIdentChar c = true) (nonempty : name ≠ [])
    {before after : List Char} (ends : EndsApart before) (begins : BeginsApart after)
    (first : ∀ before' after', before ++ name ++ after = before' ++ name ++ after' →
      EndsApart before' → BeginsApart after' → before.length ≤ before'.length)
    (front : List Char) :
    Defining front (before ++ name ++ after) name ↔
      (trimStart after).head? = some '(' ∧ "void".toList <:+ trimEnd (front ++ before) ∨
        Defining (front ++ before ++ name) after name := by
  constructor
  · rintro ⟨before', after', same, ends', begins', opens, void⟩
    rcases Nat.eq_or_lt_of_le (first before' after' same ends' begins') with here | later
    · rw [List.append_assoc, List.append_assoc] at same
      obtain ⟨rfl, behind⟩ := List.append_inj same here
      rw [List.append_cancel_left_eq] at behind
      rw [behind]
      exact .inl ⟨opens, void⟩
    · obtain ⟨between, rfl, rfl, apart⟩ := exists_between ident same ends' later
      refine .inr ⟨between, after', rfl, apart, begins', opens, ?_⟩
      simpa only [List.append_assoc] using void
  · rintro (⟨opens, void⟩ | ⟨between, after', rfl, apart, begins', opens, void⟩)
    · exact ⟨before, after, rfl, ends, begins, opens, void⟩
    · have some : between ≠ [] := ne_nil_of_beginsApart ident nonempty begins
      refine ⟨before ++ name ++ between, after', by simp only [List.append_assoc],
        apart.append_left some _, begins', opens, ?_⟩
      simpa only [List.append_assoc] using void

section Places

variable {code before after : List Char} {offset : Nat}
  (split : code.drop offset = before ++ name ++ after)
include split

theorem take_start : code.take (offset + before.length) = code.take offset ++ before := by
  rw [List.take_add, split, List.append_assoc, List.take_left]

theorem take_stop :
    code.take (offset + before.length + name.length) = code.take offset ++ before ++ name := by
  rw [Nat.add_assoc, List.take_add, split, ← List.length_append, List.take_left, List.append_assoc]

theorem drop_stop : code.drop (offset + before.length + name.length) = after := by
  rw [Nat.add_assoc, ← List.drop_drop, split, ← List.length_append, List.drop_left]

end Places

/-- The search for a definition sees what stands behind the offset, and finds one just if there is
one. -/
theorem definesFrom_iff (ident : ∀ c ∈ name, isIdentChar c = true) (nonempty : name ≠ [])
    (code : List Char) (offset : Nat) :
    definesFrom code name offset = true ↔ Defining (code.take offset) (code.drop offset) name := by
  fun_induction definesFrom code name offset with
  | case1 offset _ missing =>
    refine iff_of_false Bool.false_ne_true ?_
    rintro ⟨before, after, split, ends, begins, -, -⟩
    have has : hasWord (code.drop offset) name = true :=
      (hasWord_iff_standing ident nonempty _).2 ⟨before, after, split, ends, begins⟩
    rw [hasWord, missing] at has
    cases has
  | case2 offset _ found place start stop shape =>
    obtain ⟨before, after, split, rfl, ends, begins, first⟩ :=
      findWord_eq_some ident nonempty place
    rw [drop_stop split, take_start split] at shape
    rw [split, defining_append_iff ident nonempty ends begins (split ▸ first)]
    exact iff_of_true rfl (.inl ⟨shape.1, List.isSuffixOf_iff_suffix.1 shape.2⟩)
  | case3 offset _ found place start stop shape _ ih =>
    obtain ⟨before, after, split, rfl, ends, begins, first⟩ :=
      findWord_eq_some ident nonempty place
    rw [ih, split, defining_append_iff ident nonempty ends begins (split ▸ first),
      drop_stop split, take_stop split]
    rw [drop_stop split, take_start split, List.isSuffixOf_iff_suffix] at shape
    exact (or_iff_right shape).symm
  | case4 offset _ found _ start stop _ stuck =>
    have := List.length_pos_iff.2 nonempty
    omega
  | case5 offset outside =>
    refine iff_of_false Bool.false_ne_true ?_
    rintro ⟨before, after, split, -⟩
    rw [List.drop_eq_nil_of_le (by omega)] at split
    simp [nonempty] at split

/-! ### Blanks behind a definition -/

theorem head?_trimStart_concat_blank {c : Char} (blank : isBlank c = true) (s : List Char) :
    (trimStart (s ++ [c])).head? = (trimStart s).head? := by
  rw [trimStart_concat_blank blank]
  split
  · next empty => rw [empty]
  · next some =>
    rw [List.head?_append, List.head?_eq_some_head some]
    rfl

theorem defining_concat_blank {c : Char} (blank : isBlank c = true) (front code : List Char) :
    Defining front (code ++ [c]) name ↔ Defining front code name := by
  have free : isIdentChar c = false := isIdentChar_of_isBlank blank
  constructor
  · rintro ⟨before, after, split, ends, begins, opens, void⟩
    rcases List.eq_nil_or_concat after with rfl | ⟨after', d, rfl⟩
    · cases opens
    · rw [List.concat_eq_append, ← List.append_assoc] at split
      obtain ⟨rfl, last⟩ := List.append_inj' split rfl
      rw [List.concat_eq_append, ← List.singleton_inj.1 last] at begins opens
      rw [head?_trimStart_concat_blank blank] at opens
      exact ⟨before, after', rfl, ends, (beginsApart_concat_iff free).1 begins, opens, void⟩
  · rintro ⟨before, after, rfl, ends, begins, opens, void⟩
    refine ⟨before, after ++ [c], by simp, ends, (beginsApart_concat_iff free).2 begins, ?_, void⟩
    rwa [head?_trimStart_concat_blank blank]

theorem definesFrom_concat_blank (ident : ∀ c ∈ name, isIdentChar c = true) (nonempty : name ≠ [])
    {c : Char} (blank : isBlank c = true) (code : List Char) :
    definesFrom (code ++ [c]) name 0 = definesFrom code name 0 := by
  rw [Bool.eq_iff_iff, definesFrom_iff ident nonempty, definesFrom_iff ident nonempty]
  exact defining_concat_blank blank [] code

end ShaderFilm.Shader
