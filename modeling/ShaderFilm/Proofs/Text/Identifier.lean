import ShaderFilm.Proofs.Text.Occurrence

/-!
# Identifiers

The identifiers of a text are its maximal runs of identifier characters.  Replacing a name by
another one replaces it in each of them (`identifiers_replaceAll`), and two texts become the same
just if one of them has the old name where the other has the new one and what follows becomes the
same (`swapped_of_replaceAll_eq`, `Swapped.replaceAll_eq`).
-/

namespace ShaderFilm.Text

/-- The maximal runs of identifier characters. -/
def identifiers (s : List Char) : List (List Char) :=
  (s.splitOnP (!isIdentChar ·)).filter (· ≠ [])

variable {old new word s t : List Char}

theorem identifiers_append_cons {c : Char} (free : isIdentChar c = false) (s t : List Char) :
    identifiers (s ++ c :: t) = identifiers s ++ identifiers t := by
  have cut : (!isIdentChar c) = true := by simp [free]
  rw [identifiers, List.splitOnP_append_cons s t cut, List.filter_append]
  rfl

theorem identifiers_of_ident (ident : ∀ c ∈ s, isIdentChar c = true) :
    identifiers s = if s = [] then [] else [s] := by
  have whole : s.splitOnP (!isIdentChar ·) = [s] :=
    List.splitOnP_eq_singleton fun c mem => by simp [ident c mem]
  rw [identifiers, whole]
  by_cases empty : s = [] <;> simp [empty]

/-! ### Identifiers of renamed texts -/

theorem ident_replaceAll (names : Names old new) (ident : ∀ c ∈ s, isIdentChar c = true) :
    ∀ c ∈ replaceAll old new s, isIdentChar c = true := by
  intro c mem
  have renamed := renamed_replaceAll names.old_ne_nil new s
  by_contra free
  have fresh : c ∉ new := fun inNew => free (names.new_ident c inNew)
  have lacks : c ∉ s := fun inText => free (ident c inText)
  exact renamed.not_mem fresh lacks mem

theorem replaceAll_eq_nil_iff (names : Names old new) : replaceAll old new s = [] ↔ s = [] := by
  constructor
  · intro empty
    have renamed := renamed_replaceAll names.old_ne_nil new s
    rw [empty] at renamed
    generalize none : ([] : List Char) = t at renamed
    cases renamed with
    | nil => rfl
    | cons c rest => cases none
    | name rest => exact absurd (List.append_eq_nil_iff.1 none.symm).1 names.new_ne_nil
  · rintro rfl
    rfl

theorem replaceAll_append_cons (names : Names old new) {c : Char} (free : isIdentChar c = false)
    (s t : List Char) :
    replaceAll old new (s ++ c :: t) = replaceAll old new s ++ c :: replaceAll old new t := by
  have begins : BeginsApart (c :: t) := by
    intro d first
    rwa [← Option.some.inj first]
  have other : ¬ old <+: c :: t := by
    obtain ⟨d, rest, rfl⟩ := List.exists_cons_of_ne_nil names.old_ne_nil
    intro here
    obtain ⟨rfl, -⟩ := List.cons_prefix_cons.1 here
    rw [names.old_ident d List.mem_cons_self] at free
    cases free
  rw [replaceAll_append_of_apart names.old_ne_nil names.old_ident (.inr begins),
    replaceAll_cons other]

/-- Names are replaced identifier by identifier. -/
theorem identifiers_replaceAll (names : Names old new) (s : List Char) :
    identifiers (replaceAll old new s) = (identifiers s).map (replaceAll old new) := by
  induction n : s.length using Nat.strongRecOn generalizing s with
  | _ n ih =>
    by_cases ident : ∀ c ∈ s, isIdentChar c = true
    · rw [identifiers_of_ident ident, identifiers_of_ident (ident_replaceAll names ident)]
      simp only [replaceAll_eq_nil_iff names]
      split <;> rfl
    · -- there is a character that separates identifiers, and the text is cut there
      simp only [not_forall, Bool.not_eq_true] at ident
      obtain ⟨c, mem, free⟩ := ident
      obtain ⟨front, rest, rfl⟩ := List.append_of_mem mem
      rw [List.length_append, List.length_cons] at n
      have first := ih front.length (by omega) front rfl
      have second := ih rest.length (by omega) rest rfl
      rw [replaceAll_append_cons names free, identifiers_append_cons free,
        identifiers_append_cons free, first, second, List.map_append]

/-! ### Texts that become the same -/

/-- Up to some place the texts are the same; there one of them has the old name and the other one
the new one, and what follows becomes the same. -/
def Swapped (old new s t : List Char) : Prop :=
  ∃ front rest rest', s = front ++ (old ++ rest) ∧ t = front ++ (new ++ rest') ∧
    replaceAll old new rest = replaceAll old new rest'

theorem Swapped.append (front : List Char) (h : Swapped old new s t) :
    Swapped old new (front ++ s) (front ++ t) := by
  obtain ⟨first, rest, rest', rfl, rfl, same⟩ := h
  exact ⟨front ++ first, rest, rest', by rw [List.append_assoc], by rw [List.append_assoc], same⟩

theorem Clear.of_cons {c : Char} (clear : Clear (c :: s) word) : Clear s word := by
  intro part mem
  refine clear part ?_
  rw [List.tails_cons]
  exact List.mem_cons_of_mem _ mem

/-- Nothing is replaced in a word in which no occurrence of the old name begins. -/
theorem replaceAll_clear_append (clear : Clear word old) (t : List Char) :
    replaceAll old new (word ++ t) = word ++ replaceAll old new t := by
  induction word with
  | nil => rfl
  | cons c word ih =>
    have other : ¬ old <+: c :: (word ++ t) :=
      clear.not_isPrefix_append List.suffix_rfl (List.cons_ne_nil c word) t
    rw [List.cons_append, replaceAll_cons other, ih clear.of_cons, List.cons_append]

/-- No occurrence of the old name that begins before the word reaches into it. -/
theorem replaceAll_append_clear (nonempty : old ≠ []) (clear : Clear old.tail word)
    (front rest : List Char) :
    replaceAll old new (front ++ (word ++ rest)) =
      replaceAll old new front ++ replaceAll old new (word ++ rest) := by
  induction front using occurrence_induction nonempty with
  | nil => rfl
  | name front ih =>
    rw [List.append_assoc, replaceAll_append nonempty, replaceAll_append nonempty, ih,
      List.append_assoc]
  | cons c front other ih =>
    have across : ¬ old <+: c :: (front ++ (word ++ rest)) := by
      intro here
      rw [← List.cons_append] at here
      rcases List.prefix_or_prefix_of_prefix here (List.prefix_append _ _) with
        within | ⟨last, split⟩
      · exact other within
      · by_cases empty : last = []
        · rw [empty, List.append_nil] at split
          exact other (by rw [split])
        · -- the end of the name is where the word begins
          rw [← split, List.prefix_append_right_inj] at here
          have ends : last <:+ old.tail := ⟨front, by rw [← split]; rfl⟩
          obtain ⟨shorter, longer⟩ := clear last ((List.mem_tails _ _).2 ends) empty
          rcases List.prefix_or_prefix_of_prefix here (List.prefix_append word rest) with
            first | second
          · exact shorter first
          · exact longer second
    rw [List.cons_append, replaceAll_cons across, replaceAll_cons other, ih, List.cons_append]

/-- A text that begins with the new name after the replacement has begun with one of the two. -/
theorem exists_of_replaceAll_eq_append (names : Names old new) (inNew : Clear new old)
    (ownNew : Clear new.tail new) (other : ¬ old <+: s) (same : replaceAll old new s = new ++ t) :
    ∃ rest, s = new ++ rest ∧ replaceAll old new rest = t := by
  have inFront : new <+: s := by
    obtain ⟨d, tail, rfl⟩ := List.exists_cons_of_ne_nil names.new_ne_nil
    cases s with
    | nil => cases same
    | cons c s =>
      rw [replaceAll_cons other, List.cons_append, List.cons.injEq] at same
      obtain ⟨rfl, behind⟩ := same
      have back : Renamed (c :: tail) old (replaceAll old (c :: tail) s) s :=
        (renamed_replaceAll names.old_ne_nil _ s).symm
      have begins : tail <+: replaceAll old (c :: tail) s := by
        rw [behind]
        exact List.prefix_append tail t
      exact List.cons_prefix_cons.2 ⟨rfl, back.isPrefix ownNew List.suffix_rfl begins⟩
  obtain ⟨rest, rfl⟩ := inFront
  rw [replaceAll_clear_append inNew] at same
  exact ⟨rest, rfl, List.append_cancel_left same⟩

/-- Texts that become the same are the same, or one of them has the new name where the other has the
old one. -/
theorem swapped_of_replaceAll_eq (names : Names old new) (inNew : Clear new old)
    (ownNew : Clear new.tail new) (same : replaceAll old new s = replaceAll old new t) :
    s = t ∨ Swapped old new s t ∨ Swapped old new t s := by
  have nonempty := names.old_ne_nil
  induction s using occurrence_induction nonempty generalizing t with
  | nil => exact .inl ((replaceAll_eq_nil_iff names).1 same.symm).symm
  | name s ih =>
    rw [replaceAll_append nonempty] at same
    by_cases here : old <+: t
    · obtain ⟨t, rfl⟩ := here
      rw [replaceAll_append nonempty, List.append_cancel_left_eq] at same
      rcases ih same with rfl | swapped | swapped
      · exact .inl rfl
      · exact .inr (.inl (swapped.append old))
      · exact .inr (.inr (swapped.append old))
    · obtain ⟨rest, rfl, behind⟩ :=
        exists_of_replaceAll_eq_append names inNew ownNew here same.symm
      exact .inr (.inl ⟨[], s, rest, rfl, rfl, behind.symm⟩)
  | cons c s other ih =>
    by_cases here : old <+: t
    · obtain ⟨t, rfl⟩ := here
      rw [replaceAll_append nonempty] at same
      obtain ⟨rest, split, behind⟩ :=
        exists_of_replaceAll_eq_append names inNew ownNew other same
      exact .inr (.inr ⟨[], t, rest, rfl, split, behind.symm⟩)
    · rw [replaceAll_cons other] at same
      cases t with
      | nil => cases same
      | cons d t =>
        rw [replaceAll_cons here, List.cons.injEq] at same
        obtain ⟨rfl, behind⟩ := same
        rcases ih behind with rfl | swapped | swapped
        · exact .inl rfl
        · exact .inr (.inl (swapped.append [c]))
        · exact .inr (.inr (swapped.append [c]))

theorem Swapped.replaceAll_eq (nonempty : old ≠ []) (inNew : Clear new old)
    (ownOld : Clear old.tail old) (inOld : Clear old.tail new) (h : Swapped old new s t) :
    replaceAll old new s = replaceAll old new t := by
  obtain ⟨front, rest, rest', rfl, rfl, same⟩ := h
  rw [replaceAll_append_clear nonempty ownOld, replaceAll_append_clear nonempty inOld,
    replaceAll_append nonempty, replaceAll_clear_append inNew, same]

end ShaderFilm.Text
