import ShaderFilm.Text.Word

/-!
# Whole words

`Standing s word` says that a word occurs in a text as no part of a longer identifier.  The search
for it goes over occurrences that do not overlap; as a word of identifier characters cannot overlap
an occurrence that stands alone, none of these is missed (`hasWord_iff_standing`).
-/

namespace ShaderFilm.Text

/-- Whether a text may stand before an identifier: its last character is not of an identifier. -/
def EndsApart (before : List Char) : Prop := ∀ c, before.getLast? = some c → isIdentChar c = false

/-- Whether a text may stand after an identifier: its first character is not of an identifier. -/
def BeginsApart (after : List Char) : Prop := ∀ c, after.head? = some c → isIdentChar c = false

/-- The word occurs in `s` as no part of a longer identifier. -/
def Standing (s word : List Char) : Prop :=
  ∃ before after, s = before ++ word ++ after ∧ EndsApart before ∧ BeginsApart after

theorem EndsApart.of_append {before more : List Char} (apart : EndsApart (before ++ more)) :
    EndsApart more := by
  intro c last
  exact apart c (by rw [List.getLast?_append, last]; rfl)

theorem EndsApart.of_cons {c : Char} {before : List Char} (apart : EndsApart (c :: before)) :
    EndsApart before :=
  of_append (show EndsApart ([c] ++ before) from apart)

theorem EndsApart.cons {c : Char} {before : List Char} (apart : EndsApart before)
    (free : isIdentChar c = false) : EndsApart (c :: before) := by
  intro d last
  rw [List.getLast?_cons] at last
  rw [← Option.some.inj last]
  cases inner : before.getLast? with
  | none => exact free
  | some e => exact apart e inner

theorem EndsApart.append_left {before : List Char} (apart : EndsApart before)
    (nonempty : before ≠ []) (front : List Char) : EndsApart (front ++ before) := by
  intro c last
  rw [List.getLast?_append, List.getLast?_eq_some_getLast nonempty] at last
  refine apart c ?_
  rw [List.getLast?_eq_some_getLast nonempty]
  exact last

theorem EndsApart.eq_nil_of_ident {s : List Char} (apart : EndsApart s)
    (ident : ∀ c ∈ s, isIdentChar c = true) : s = [] := by
  rcases List.eq_nil_or_concat s with rfl | ⟨start, c, rfl⟩
  · rfl
  · have free := apart c (by simp)
    rw [ident c (by simp)] at free
    cases free

theorem endsApart_reverse_iff {s : List Char} : EndsApart s.reverse ↔ BeginsApart s := by
  rw [EndsApart, BeginsApart, List.getLast?_reverse]

theorem beginsApart_concat_iff {c : Char} {after : List Char} (free : isIdentChar c = false) :
    BeginsApart (after ++ [c]) ↔ BeginsApart after := by
  cases after with
  | nil => simp [BeginsApart, free]
  | cons d after => rfl

/-- What cannot belong to the first word of a text may follow it. -/
theorem firstWord_append {after : List Char} (apart : BeginsApart after) (s : List Char) :
    firstWord (s ++ after) = firstWord s := by
  induction s with
  | nil =>
    cases after with
    | nil => rfl
    | cons c after => simp [firstWord, apart c rfl]
  | cons c s ih =>
    rw [firstWord, firstWord] at ih ⊢
    rw [List.cons_append, List.takeWhile_cons, List.takeWhile_cons, ih]

variable {word : List Char}

/-! ### The search -/

/-- Each offset that the search yields is the place of an occurrence. -/
theorem exists_of_mem_matchOffsets {s : List Char} {offset skip n : Nat}
    (h : n ∈ matchOffsets word s offset skip) :
    ∃ before after, s = before ++ word ++ after ∧ n = offset + before.length := by
  fun_induction matchOffsets word s offset skip with
  | case1 => simp at h
  | case2 c rest offset skip ih =>
    obtain ⟨before, after, rfl, rfl⟩ := ih h
    exact ⟨c :: before, after, rfl, by simp; omega⟩
  | case3 c rest offset here ih =>
    rcases List.mem_cons.1 h with rfl | later
    · obtain ⟨after, split⟩ := List.isPrefixOf_iff_prefix.1 here
      exact ⟨[], after, split.symm, rfl⟩
    · obtain ⟨before, after, rfl, rfl⟩ := ih later
      exact ⟨c :: before, after, rfl, by simp; omega⟩
  | case4 c rest offset _ ih =>
    obtain ⟨before, after, rfl, rfl⟩ := ih h
    exact ⟨c :: before, after, rfl, by simp; omega⟩

/-- An occurrence that begins inside of another one does not stand alone. -/
theorem length_le_of_isPrefixOf (ident : ∀ c ∈ word, isIdentChar c = true)
    {before : List Char} (apart : EndsApart before) (nonempty : before ≠ []) (after : List Char)
    (other : word.isPrefixOf (before ++ after) = true) : word.length ≤ before.length := by
  apply Nat.le_of_not_lt
  intro shorter
  have inFront : before <+: word :=
    List.prefix_of_prefix_length_le (List.prefix_append before after)
      (List.isPrefixOf_iff_prefix.1 other) (by omega)
  exact nonempty (apart.eq_nil_of_ident fun c mem => ident c (inFront.subset mem))

/-- The search yields the place of each occurrence before which an identifier may not go on. -/
theorem mem_matchOffsets (ident : ∀ c ∈ word, isIdentChar c = true) {before : List Char}
    (nonempty : word ≠ []) (apart : EndsApart before) (after : List Char) (offset : Nat)
    {skip : Nat} (reached : skip ≤ before.length) :
    offset + before.length ∈ matchOffsets word (before ++ word ++ after) offset skip := by
  induction before generalizing offset skip with
  | nil =>
    obtain rfl : skip = 0 := Nat.le_zero.1 reached
    obtain ⟨c, rest, rfl⟩ := List.exists_cons_of_ne_nil nonempty
    have here : (c :: rest).isPrefixOf (c :: (rest ++ after)) = true :=
      List.isPrefixOf_iff_prefix.2 (List.prefix_append (c :: rest) after)
    simp [matchOffsets, here]
  | cons c before ih =>
    have apart' : EndsApart before := apart.of_cons
    have there : offset + (c :: before).length = offset + 1 + before.length := by simp; omega
    rw [there]
    cases skip with
    | succ skip => exact ih apart' (offset + 1) (Nat.le_of_succ_le_succ reached)
    | zero =>
      simp only [List.cons_append, matchOffsets]
      split
      · next other =>
        have short := length_le_of_isPrefixOf ident apart (List.cons_ne_nil c before)
          (word ++ after) (by simpa using other)
        exact List.mem_cons_of_mem _ (ih apart' (offset + 1) (by simp at short; omega))
      · exact ih apart' (offset + 1) (Nat.zero_le _)

theorem pairwise_matchOffsets (s : List Char) (offset skip : Nat) :
    (matchOffsets word s offset skip).Pairwise (· < ·) := by
  fun_induction matchOffsets word s offset skip with
  | case1 => exact .nil
  | case2 _ _ _ _ ih => exact ih
  | case3 c rest offset here ih =>
    refine List.pairwise_cons.2 ⟨fun n later => ?_, ih⟩
    obtain ⟨before, after, -, place⟩ := exists_of_mem_matchOffsets later
    omega
  | case4 _ _ _ _ ih => exact ih

theorem standsAlone_append (before after : List Char) :
    standsAlone (before ++ word ++ after) before.length word.length = true ↔
      EndsApart before ∧ BeginsApart after := by
  have behind : (before ++ word ++ after)[before.length + word.length]? = after.head? := by
    rw [← List.length_append, List.getElem?_append_right (Nat.le_refl _), Nat.sub_self,
      List.head?_eq_getElem?]
  have inFront : before ≠ [] →
      (before ++ word ++ after)[before.length - 1]? = before.getLast? := by
    intro nonempty
    have := List.length_pos_iff.2 nonempty
    rw [List.append_assoc, List.getElem?_append_left (by omega), List.getLast?_eq_getElem?]
  rw [standsAlone, behind]
  by_cases nonempty : before = []
  · subst nonempty
    cases h : after.head? <;> simp [EndsApart, BeginsApart, h]
  · rw [inFront nonempty]
    cases h : before.getLast? <;> cases h' : after.head? <;>
      simp [EndsApart, BeginsApart, h, h', nonempty]

/-- The search finds a word just if it stands somewhere alone. -/
theorem hasWord_iff_standing (ident : ∀ c ∈ word, isIdentChar c = true) (nonempty : word ≠ [])
    (s : List Char) : hasWord s word = true ↔ Standing s word := by
  rw [hasWord, findWord, List.find?_isSome]
  constructor
  · rintro ⟨n, found, alone⟩
    obtain ⟨before, after, rfl, rfl⟩ := exists_of_mem_matchOffsets found
    rw [Nat.zero_add, standsAlone_append] at alone
    exact ⟨before, after, rfl, alone⟩
  · rintro ⟨before, after, rfl, alone⟩
    have found := mem_matchOffsets ident nonempty alone.1 after 0 (Nat.zero_le _)
    rw [Nat.zero_add] at found
    exact ⟨_, found, (standsAlone_append before after).2 alone⟩

/-- The search finds the first place at which the word stands alone. -/
theorem findWord_eq_some (ident : ∀ c ∈ word, isIdentChar c = true) (nonempty : word ≠ [])
    {s : List Char} {n : Nat} (h : findWord s word = some n) :
    ∃ before after, s = before ++ word ++ after ∧ n = before.length ∧ EndsApart before ∧
      BeginsApart after ∧
      ∀ before' after', s = before' ++ word ++ after' → EndsApart before' → BeginsApart after' →
        before.length ≤ before'.length := by
  obtain ⟨alone, earlier, later, split, others⟩ := List.find?_eq_some_iff_append.1 h
  obtain ⟨before, after, rfl, rfl⟩ := exists_of_mem_matchOffsets (List.mem_of_find?_eq_some h)
  rw [Nat.zero_add] at alone split
  obtain ⟨ends, begins⟩ := (standsAlone_append before after).1 alone
  refine ⟨before, after, rfl, Nat.zero_add _, ends, begins, ?_⟩
  intro before' after' same ends' begins'
  have found : before'.length ∈ matchOffsets word (before ++ word ++ after) 0 0 := by
    have place := mem_matchOffsets ident nonempty ends' after' 0 (Nat.zero_le _)
    rwa [Nat.zero_add, ← same] at place
  have alone' : standsAlone (before ++ word ++ after) before'.length word.length = true := by
    rw [same]
    exact (standsAlone_append before' after').2 ⟨ends', begins'⟩
  have sorted : (matchOffsets word (before ++ word ++ after) 0 0).Pairwise (· < ·) :=
    pairwise_matchOffsets _ 0 0
  rw [split] at found sorted
  rcases List.mem_append.1 found with early | late
  · have passed := others _ early
    rw [alone'] at passed
    cases passed
  · rcases List.mem_cons.1 late with here | there
    · omega
    · have := List.rel_of_pairwise_cons (List.pairwise_append.1 sorted).2.1 there
      omega

/-- Two places at which a word stands alone do not overlap. -/
theorem exists_between (ident : ∀ c ∈ word, isIdentChar c = true)
    {before after before' after' : List Char}
    (same : before ++ word ++ after = before' ++ word ++ after') (apart : EndsApart before')
    (longer : before.length < before'.length) :
    ∃ between, before' = before ++ word ++ between ∧ after = between ++ word ++ after' ∧
      EndsApart between := by
  rw [List.append_assoc, List.append_assoc] at same
  rcases List.append_eq_append_iff.1 same with ⟨more, rfl, split⟩ | ⟨more, rfl, -⟩
  · have some : more ≠ [] := by
      rintro rfl
      simp at longer
    have here : word <+: more ++ (word ++ after') := ⟨after, split⟩
    have fits : word.length ≤ more.length := length_le_of_isPrefixOf ident apart.of_append some _
      (List.isPrefixOf_iff_prefix.2 here)
    obtain ⟨between, rfl⟩ :=
      List.prefix_of_prefix_length_le here (List.prefix_append more _) fits
    rw [List.append_assoc word, List.append_cancel_left_eq] at split
    rw [← List.append_assoc] at apart
    exact ⟨between, by rw [List.append_assoc], by rw [split, List.append_assoc], apart.of_append⟩
  · rw [List.length_append] at longer
    omega

/-- A word does not go on where it ends, so that another place of it is apart. -/
theorem ne_nil_of_beginsApart {between after : List Char}
    (ident : ∀ c ∈ word, isIdentChar c = true) (nonempty : word ≠ [])
    (begins : BeginsApart (between ++ word ++ after)) : between ≠ [] := by
  rintro rfl
  obtain ⟨c, rest, rfl⟩ := List.exists_cons_of_ne_nil nonempty
  have free := begins c rfl
  rw [ident c List.mem_cons_self] at free
  cases free

/-! ### Whole words of longer texts -/

theorem Standing.append {s after : List Char} (stands : Standing s word)
    (apart : BeginsApart after) : Standing (s ++ after) word := by
  obtain ⟨before, rest, rfl, ends, begins⟩ := stands
  refine ⟨before, rest ++ after, by simp, ends, ?_⟩
  cases rest with
  | nil => exact apart
  | cons c rest => exact fun d first => begins d first

/-- A character of no identifier at the front of a text belongs to none of its whole words. -/
theorem Standing.of_cons {s : List Char} {c : Char} (free : isIdentChar c = false)
    (ident : ∀ c ∈ word, isIdentChar c = true) (nonempty : word ≠ [])
    (stands : Standing (c :: s) word) : Standing s word := by
  obtain ⟨before, after, split, ends, begins⟩ := stands
  cases before with
  | nil =>
    obtain ⟨d, rest, rfl⟩ := List.exists_cons_of_ne_nil nonempty
    cases split
    rw [ident c List.mem_cons_self] at free
    cases free
  | cons d before =>
    cases split
    exact ⟨before, after, rfl, ends.of_cons, begins⟩

theorem Standing.cons {s : List Char} {c : Char} (stands : Standing s word)
    (free : isIdentChar c = false) : Standing (c :: s) word := by
  obtain ⟨before, after, rfl, ends, begins⟩ := stands
  exact ⟨c :: before, after, rfl, ends.cons free, begins⟩

/-- A character of no identifier may follow a text without any change to its whole words. -/
theorem standing_concat_iff {s : List Char} {c : Char} (free : isIdentChar c = false)
    (ident : ∀ c ∈ word, isIdentChar c = true) (nonempty : word ≠ []) :
    Standing (s ++ [c]) word ↔ Standing s word := by
  constructor
  · rintro ⟨before, after, split, ends, begins⟩
    rcases List.eq_nil_or_concat after with rfl | ⟨after', d, rfl⟩
    · rcases List.eq_nil_or_concat word with rfl | ⟨start, d, rfl⟩
      · exact absurd rfl nonempty
      · rw [List.append_nil, List.concat_eq_append, ← List.append_assoc] at split
        obtain ⟨-, last⟩ := List.append_inj' split rfl
        rw [List.singleton_inj.1 last, ident d (by simp)] at free
        cases free
    · rw [List.concat_eq_append, ← List.append_assoc] at split
      obtain ⟨rfl, last⟩ := List.append_inj' split rfl
      rw [List.concat_eq_append, ← List.singleton_inj.1 last, beginsApart_concat_iff free] at begins
      exact ⟨before, after', rfl, ends, begins⟩
  · rintro ⟨before, after, rfl, ends, begins⟩
    exact ⟨before, after ++ [c], by simp, ends, (beginsApart_concat_iff free).2 begins⟩

end ShaderFilm.Text
