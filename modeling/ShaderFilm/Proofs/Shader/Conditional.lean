import Mathlib.Data.List.TakeWhile
import Mathlib.Tactic.SplitIfs
import ShaderFilm.Proofs.Shader.Line

/-!
# Conditionals of the preprocessor

A directive opens, divides or closes a conditional according to its name.  The canonical program
takes the name of a directive to end at a blank (`part?`), while it is an identifier to everybody
else (`namedPart?`); a part that is seen in the first way is seen in the second
(`namedPart?_of_part?`).  `keptLines_cons` says what becomes of each part, and `within` lists lines
together with the conditionals around them.
-/

namespace ShaderFilm.Shader

open ShaderFilm.Text

/-- What a directive is to a conditional. -/
inductive Part where
  | opener
  | elif
  | otherwise
  | closer
  deriving DecidableEq, Repr

/-- What a directive of the given name is to a conditional, if anything. -/
def Part.ofName (name : List Char) : Option Part :=
  if name = "ifdef".toList then some .opener
  else if name = "if".toList then some .opener
  else if name = "ifndef".toList then some .opener
  else if name = "endif".toList then some .closer
  else if name = "elif".toList then some .elif
  else if name = "else".toList then some .otherwise
  else none

/-- The part of a line, where `name` finds the name of a directive. -/
def Part.of (name : List Char → List Char) (line : List Char) : Option Part :=
  match trimStart line with
  | '#' :: directive => Part.ofName (name (trimStart directive))
  | _ => none

/-- The part of a line if the name of a directive ends at a blank. -/
def part? : List Char → Option Part := Part.of fun directive => (cutAtBlank directive).1

/-- The part of a line if the name of a directive is an identifier. -/
def namedPart? : List Char → Option Part := Part.of firstWord

/-- Whether a line opens the guard of an embedded profile. -/
def isGuard (line : List Char) : Bool := LineKind.of line = .guard

/-- Whether a line is one that every program states itself. -/
def isStated (line : List Char) : Bool :=
  LineKind.of line ∈ [LineKind.version, .precision, .standardUniform]

theorem Part.of_hash {name : List Char → List Char} {line directive : List Char}
    (hash : trimStart line = '#' :: directive) :
    Part.of name line = Part.ofName (name (trimStart directive)) := by
  rw [Part.of, hash]
  rfl

theorem Part.of_plain {name : List Char → List Char} {line : List Char}
    (plain : ∀ directive, trimStart line ≠ '#' :: directive) : Part.of name line = none := by
  unfold Part.of
  split
  · next directive hash => exact absurd hash (plain directive)
  · rfl

/-! ### Parts of tidied lines -/

theorem Blind.ofName {name : List Char → List Char}
    (blind : ∀ word : List Char, 'C' ∉ word → Blind fun s => name s = word) :
    Blind fun s => Part.ofName (name s) :=
  .ite (blind "ifdef".toList (by decide)) (.const (some Part.opener)) <|
  .ite (blind "if".toList (by decide)) (.const (some Part.opener)) <|
  .ite (blind "ifndef".toList (by decide)) (.const (some Part.opener)) <|
  .ite (blind "endif".toList (by decide)) (.const (some Part.closer)) <|
  .ite (blind "elif".toList (by decide)) (.const (some Part.elif)) <|
  .ite (blind "else".toList (by decide)) (.const (some Part.otherwise)) (.const none)

theorem blind_part? : Blind part? := (Blind.ofName .keyword).trimStart.ofHash (.const none)

theorem blind_namedPart? : Blind namedPart? :=
  (Blind.ofName .firstWord).trimStart.ofHash (.const none)

/-! ### Parts and kinds -/

/-- How the kind of a line goes together with its part. -/
inductive Agree : LineKind → Option Part → Prop
  | guard : Agree .guard (some .opener)
  | opener : Agree .opener (some .opener)
  | closer : Agree .closer (some .closer)
  | elif : Agree .body (some .elif)
  | otherwise : Agree .body (some .otherwise)
  | version : Agree .version none
  | precision : Agree .precision none
  | standardUniform : Agree .standardUniform none
  | body : Agree .body none

theorem Agree.ofDirective (directive : List Char) :
    Agree (LineKind.ofDirective directive)
      (Part.ofName (cutAtBlank (trimStart directive)).1) := by
  unfold LineKind.ofDirective
  rcases cutAtBlank (trimStart directive) with ⟨name, rest⟩
  dsimp only
  split_ifs with version ifdef guard ifOpener condition ifndef endif
  · subst version; exact .version
  · subst ifdef; exact .guard
  · subst ifdef; exact .opener
  · subst ifOpener; exact .guard
  · subst ifOpener; exact .opener
  · subst ifndef; exact .opener
  · subst endif; exact .closer
  · rw [Part.ofName, if_neg ifdef, if_neg ifOpener, if_neg ifndef, if_neg endif]
    split_ifs
    · exact .elif
    · exact .otherwise
    · exact .body

theorem Agree.ofStatement (line : List Char) : Agree (LineKind.ofStatement line) none := by
  unfold LineKind.ofStatement
  dsimp only
  split_ifs
  · exact .precision
  · exact .standardUniform
  · exact .body
  · exact .body

theorem agree (line : List Char) : Agree (LineKind.of line) (part? line) := by
  unfold LineKind.of part?
  split
  · next directive hash =>
    rw [Part.of_hash hash]
    exact .ofDirective directive
  · next plain =>
    rw [Part.of_plain plain]
    exact .ofStatement _

theorem part?_of_isGuard {line : List Char} (guard : isGuard line = true) :
    part? line = some .opener := by
  have agree := agree line
  rw [of_decide_eq_true guard] at agree
  generalize part? line = part at agree ⊢
  cases agree
  rfl

/-- What becomes of a line that stands within the given conditionals. -/
theorem keptLines_cons (nesting : List Bool) (line : List Char) (rest : List (List Char)) :
    keptLines nesting (line :: rest) =
      match part? line with
      | some .opener =>
        if isGuard line then keptLines (true :: nesting) rest
        else line :: keptLines (false :: nesting) rest
      | some .closer =>
        if nesting.head? = some true then keptLines nesting.tail rest
        else line :: keptLines nesting.tail rest
      | some _ => line :: keptLines nesting rest
      | none =>
        if isStated line then keptLines nesting rest else line :: keptLines nesting rest := by
  have agree := agree line
  rw [keptLines, isGuard, isStated]
  generalize LineKind.of line = kind at agree ⊢
  generalize part? line = part at agree ⊢
  cases agree <;> rfl

/-! ### Names of directives -/

theorem firstWord_keyword (s : List Char) : firstWord (cutAtBlank s).1 = firstWord s := by
  have both : (fun c => decide (isIdentChar c = true ∧ (!isBlank c) = true)) = isIdentChar := by
    funext c
    cases ident : isIdentChar c with
    | false => rfl
    | true => rw [isBlank_of_isIdentChar ident]; rfl
  show ((s.takeWhile (!isBlank ·)).takeWhile isIdentChar) = s.takeWhile isIdentChar
  rw [List.takeWhile_takeWhile, both]

theorem Part.firstWord_of_ofName {name : List Char} {part : Part}
    (h : Part.ofName name = some part) : firstWord name = name := by
  unfold Part.ofName at h
  split_ifs at h <;> subst name <;> decide

/-- A directive whose name ends at a blank has that name. -/
theorem namedPart?_of_part? {line : List Char} {part : Part} (h : part? line = some part) :
    namedPart? line = some part := by
  unfold part? Part.of at h
  split at h
  · next directive hash =>
    rw [namedPart?, Part.of_hash hash, ← firstWord_keyword, Part.firstWord_of_ofName h]
    exact h
  · cases h

/-- A line that every program states itself is no part of a conditional. -/
theorem namedPart?_of_isStated {line : List Char} (h : isStated line = true) :
    namedPart? line = none := by
  unfold isStated LineKind.of at h
  split at h
  · next directive hash =>
    have version : (cutAtBlank (trimStart directive)).1 = "version".toList := by
      unfold LineKind.ofDirective at h
      dsimp only at h
      split_ifs at h with version
      · exact version
      all_goals simp at h
    rw [namedPart?, Part.of_hash hash, ← firstWord_keyword, version]
    decide
  · next plain => exact Part.of_plain plain

/-- A line whose part is seen only if names are identifiers is kept as any other one. -/
theorem part?_eq_or (line : List Char) :
    part? line = namedPart? line ∨ part? line = none ∧ isStated line = false := by
  cases part : part? line with
  | some p => exact .inl (namedPart?_of_part? part).symm
  | none =>
    cases stated : isStated line with
    | false => exact .inr ⟨rfl, rfl⟩
    | true => exact .inl (namedPart?_of_isStated stated).symm

/-! ### Surroundings -/

/-- The conditionals that are open behind a line, innermost first, with `true` for the guards. -/
def enter (part : List Char → Option Part) (nesting : List Bool) (line : List Char) : List Bool :=
  match part line with
  | some .opener => isGuard line :: nesting
  | some .closer => nesting.tail
  | _ => nesting

/-- The lines, each with the conditionals around it. -/
def within (part : List Char → Option Part) :
    List Bool → List (List Char) → List (List Bool × List Char)
  | _, [] => []
  | nesting, line :: rest => (nesting, line) :: within part (enter part nesting line) rest

/-- No guard has an `#elif` or an `#else` of its own. -/
def BareGuards (part : List Char → Option Part) (nesting : List Bool) (ls : List (List Char)) :
    Prop :=
  ∀ x ∈ within part nesting ls, part x.2 ∈ [some .elif, some .otherwise] → x.1.head? ≠ some true

instance (part : List Char → Option Part) (nesting : List Bool) (ls : List (List Char)) :
    Decidable (BareGuards part nesting ls) :=
  inferInstanceAs (Decidable (∀ x ∈ within part nesting ls, _ → _))

theorem bareGuards_cons {part : List Char → Option Part} {nesting : List Bool} {line : List Char}
    {rest : List (List Char)} :
    BareGuards part nesting (line :: rest) ↔
      (part line ∈ [some .elif, some .otherwise] → nesting.head? ≠ some true) ∧
        BareGuards part (enter part nesting line) rest := by
  simp [BareGuards, within]

/-! ### Conditionals that are kept -/

section Unmarked

variable {α : Type}

/-- The conditionals that are kept, of conditionals that are marked if they are guards. -/
def unmarked (levels : List (Bool × α)) : List α :=
  (levels.filter fun l => !l.1).map Prod.snd

@[simp] theorem unmarked_nil : unmarked ([] : List (Bool × α)) = [] := rfl

@[simp] theorem unmarked_guard (l : α) (rest : List (Bool × α)) :
    unmarked ((true, l) :: rest) = unmarked rest := rfl

@[simp] theorem unmarked_other (l : α) (rest : List (Bool × α)) :
    unmarked ((false, l) :: rest) = l :: unmarked rest := rfl

end Unmarked

end ShaderFilm.Shader
