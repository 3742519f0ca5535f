import ShaderFilm.Proofs.Text.Line
import ShaderFilm.Proofs.Text.Rename
import ShaderFilm.Shader.Canonical

/-!
# Kept lines

A line that the canonical program takes over has the legacy output renamed, and loses a carriage
return at its end when the program is cut into lines again.  Whatever does not depend on names that
are renamed nor on blanks at the end of the line is the same before and after (`Blind.tidy`); the
kind of a line is of that sort (`LineKind.blind_of`).
-/

namespace ShaderFilm.Shader

open ShaderFilm.Text

/-- A kept line as it stands among the lines of the program. -/
def tidy (line : List Char) : List Char := dropReturn (renameOutput line)

theorem outputNames : Names legacyOutput defaultOutput :=
  ⟨by decide, by decide, List.all_eq_true.1 (by decide), List.all_eq_true.1 (by decide)⟩

/-- What is seen of a line depends neither on the renaming of outputs nor on blanks at its end. -/
structure Blind {α : Type} (f : List Char → α) : Prop where
  renamed : ∀ {s t : List Char}, Renamed legacyOutput defaultOutput s t → f t = f s
  blank : ∀ {c : Char} (s : List Char), isBlank c = true → f (s ++ [c]) = f s

namespace Blind

variable {α : Type} {f g : List Char → α}

/-- What is seen of a line is seen of the line that the program takes over. -/
theorem tidy (blind : Blind f) (line : List Char) : f (tidy line) = f line := by
  have renamed : f (renameOutput line) = f line :=
    blind.renamed (renamed_replaceAll outputNames.old_ne_nil defaultOutput line)
  rw [Shader.tidy, apply_dropReturn fun s => blind.blank s (by decide), renamed]

theorem trimStart (blind : Blind f) : Blind fun s => f (trimStart s) where
  renamed h := blind.renamed (Renamed.trimStart outputNames h)
  blank s blank := by
    rw [trimStart_concat_blank blank]
    split
    · next empty => rw [empty]
    · exact blind.blank _ blank

theorem const (a : α) : Blind fun _ => a := ⟨fun _ => rfl, fun _ _ => rfl⟩

theorem ite {p : List Char → Prop} [DecidablePred p] (test : Blind p) (first : Blind f)
    (second : Blind g) : Blind fun s => if p s then f s else g s where
  renamed h := by simp only [test.renamed h, first.renamed h, second.renamed h]
  blank s h := by simp only [test.blank s h, first.blank s h, second.blank s h]

/-- A word in which the letter C does not occur is not concerned by the renaming. -/
theorem eq_word {p : List Char → List Char} {word : List Char} (lacks : 'C' ∉ word)
    (renamed : ∀ {s t}, Renamed legacyOutput defaultOutput s t →
      Renamed legacyOutput defaultOutput (p s) (p t))
    (blank : ∀ {c} s, isBlank c = true → p (s ++ [c]) = p s) : Blind fun s => p s = word where
  renamed h := propext ((renamed h).eq_iff (c := 'C') (by decide) (by decide) lacks)
  blank s h := by rw [blank s h]

theorem keyword (word : List Char) (lacks : 'C' ∉ word) :
    Blind fun s => (cutAtBlank s).1 = word :=
  eq_word lacks (fun h => (Renamed.cutAtBlank outputNames h).1)
    fun s blank => (cutAtBlank_concat_blank blank s).1

theorem argument (word : List Char) (lacks : 'C' ∉ word) :
    Blind fun s => trim (cutAtBlank s).2 = word :=
  eq_word lacks (fun h => Renamed.trim outputNames (Renamed.cutAtBlank outputNames h).2)
    fun s blank => (cutAtBlank_concat_blank blank s).2

theorem firstWord (word : List Char) (lacks : 'C' ∉ word) :
    Blind fun s => firstWord s = word :=
  eq_word lacks (Renamed.firstWord outputNames) fun s blank => firstWord_concat_blank blank s

theorem hasWord {word : List Char} (lacks : 'C' ∉ word) (ident : ∀ c ∈ word, isIdentChar c = true)
    (nonempty : word ≠ []) : Blind fun s => hasWord s word where
  renamed h := by
    rw [Bool.eq_iff_iff, hasWord_iff_standing ident nonempty, hasWord_iff_standing ident nonempty]
    exact Renamed.standing_iff outputNames h (c := 'C') (by decide) (by decide) lacks
  blank s blank := by
    rw [Bool.eq_iff_iff, hasWord_iff_standing ident nonempty, hasWord_iff_standing ident nonempty]
    exact standing_concat_iff (isIdentChar_of_isBlank blank) ident nonempty

/-- Lines with a number sign in front are told from the others. -/
theorem ofHash {directive statement : List Char → α} (first : Blind directive)
    (second : Blind statement) : Blind fun line =>
      match Text.trimStart line with
      | '#' :: rest => directive rest
      | rest => statement rest :=
  trimStart (f := fun s => match s with
    | '#' :: rest => directive rest
    | rest => statement rest)
  { renamed := by
      intro s t h
      cases h with
      | nil => rfl
      | cons c rest =>
        by_cases hash : c = '#'
        · subst hash
          exact first.renamed rest
        · simpa [hash] using second.renamed (rest.cons c)
      | name rest => exact second.renamed rest.name
    blank := by
      intro c s blank
      cases s with
      | nil =>
        have other : c ≠ '#' := by
          rintro rfl
          revert blank
          decide
        simpa [other] using second.blank [] blank
      | cons d s =>
        by_cases hash : d = '#'
        · subst hash
          exact first.blank s blank
        · simpa [hash] using second.blank (d :: s) blank }

end Blind

namespace LineKind

theorem blind_isGuardCondition :
    Blind fun s => isGuardCondition (trim (cutAtBlank s).2) = true where
  renamed {s t} h := by
    have compact := (Renamed.trim outputNames (Renamed.cutAtBlank outputNames h).2).filter
      (p := fun c => !isBlank c) (List.all_eq_true.1 (by decide)) (List.all_eq_true.1 (by decide))
    have same (word : List Char) (lacks : 'C' ∉ word) :=
      compact.eq_iff (c := 'C') (by decide) (by decide) lacks
    simp only [isGuardCondition, Bool.or_eq_true, beq_iff_eq]
    rw [same _ (by decide), same _ (by decide)]
  blank s blank := by rw [(cutAtBlank_concat_blank blank s).2]

theorem blind_ofDirective : Blind ofDirective :=
  Blind.trimStart <|
    .ite (.keyword "version".toList (by decide)) (.const version) <|
    .ite (.keyword "ifdef".toList (by decide))
      (.ite (.argument "GL_ES".toList (by decide)) (.const guard) (.const opener)) <|
    .ite (.keyword "if".toList (by decide))
      (.ite blind_isGuardCondition (.const guard) (.const opener)) <|
    .ite (.keyword "ifndef".toList (by decide)) (.const opener) <|
    .ite (.keyword "endif".toList (by decide)) (.const closer) (.const body)

theorem blind_namesStandardUniform : Blind fun s => namesStandardUniform s = true := by
  have ident (u : StandardUniform) : ∀ c ∈ u.name.toList, isIdentChar c = true :=
    List.all_eq_true.1 (by cases u <;> decide)
  have name (u : StandardUniform) : Blind fun s => hasWord s u.name.toList :=
    .hasWord (by cases u <;> decide) (ident u) (by cases u <;> decide)
  constructor
  · intro s t h
    simp only [namesStandardUniform, StandardUniform.all, List.any_cons, (name _).renamed h]
  · intro c s blank
    simp only [namesStandardUniform, StandardUniform.all, List.any_cons, (name _).blank s blank]

theorem blind_ofStatement : Blind ofStatement :=
  .ite (.firstWord "precision".toList (by decide)) (.const precision) <|
  .ite (.firstWord "uniform".toList (by decide))
    (.ite blind_namesStandardUniform (.const standardUniform) (.const body)) (.const body)

theorem blind_of : Blind of := .ofHash blind_ofDirective blind_ofStatement

end LineKind

end ShaderFilm.Shader
