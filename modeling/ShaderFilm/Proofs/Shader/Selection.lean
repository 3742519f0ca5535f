import ShaderFilm.Proofs.Shader.Canonical
import ShaderFilm.Proofs.Shader.Conditional

/-!
# Lines that are selected

`activeLines` is the meaning of conditionals: given truth values for the conditions, it lists the
lines that are selected.  Taking out the guards of embedded profiles does not change the selection
if every guard counts as true, for a conditional that is left out selects all of its lines
(`activeLines_keptLines`).  So the canonical program has the same active lines as its source, apart
from those that it states itself (`activeLines_body`).
-/

namespace ShaderFilm.Shader

open ShaderFilm.Text

/-! ### The meaning of conditionals -/

/-- An open conditional. -/
structure Level where
  /-- Whether the present branch is selected. -/
  selected : Bool
  /-- Whether this branch or one before it is selected. -/
  decided : Bool
  deriving DecidableEq, Repr

namespace Level

/-- A conditional that begins with the given condition. -/
def begin (condition : Bool) : Level := ⟨condition, condition⟩

/-- A conditional whose next branch has the given condition. -/
def next (l : Level) (condition : Bool) : Level :=
  ⟨!l.decided && condition, l.decided || condition⟩

end Level

/-- The lines outside of directives of conditionals that are selected by all conditionals around
them.  A `forced` opener counts as true; every other one, and every `#elif`, takes the next of the
truth values. -/
def activeLines (forced : List Char → Bool) :
    (truth : Nat → Bool) → List Level → List (List Char) → List (List Char)
  | _, _, [] => []
  | truth, levels, line :: rest =>
    match part? line with
    | none =>
      if levels.all (·.selected) then line :: activeLines forced truth levels rest
      else activeLines forced truth levels rest
    | some .opener =>
      if forced line then activeLines forced truth (.begin true :: levels) rest
      else activeLines forced (fun n => truth (n + 1)) (.begin (truth 0) :: levels) rest
    | some .elif =>
      activeLines forced (fun n => truth (n + 1)) (levels.modifyHead (·.next (truth 0))) rest
    | some .otherwise => activeLines forced truth (levels.modifyHead (·.next true)) rest
    | some .closer => activeLines forced truth levels.tail rest

/-- Whether a line takes a truth value. -/
def hasCondition (forced : List Char → Bool) (line : List Char) : Bool :=
  match part? line with
  | some .opener => !forced line
  | some .elif => true
  | _ => false

/-- The lines that take truth values, in the order in which they do. -/
def conditions (forced : List Char → Bool) (ls : List (List Char)) : List (List Char) :=
  ls.filter (hasCondition forced)

/-- Lines may be replaced by lines with the same parts. -/
theorem activeLines_map {f : List Char → List Char} (same : ∀ line, part? (f line) = part? line)
    (truth : Nat → Bool) (levels : List Level) (ls : List (List Char)) :
    activeLines (fun _ => false) truth levels (ls.map f) =
      (activeLines (fun _ => false) truth levels ls).map f := by
  induction ls generalizing truth levels with
  | nil => rfl
  | cons line rest ih =>
    rw [List.map_cons, activeLines, activeLines, same]
    cases part? line with
    | none =>
      dsimp only
      split
      · rw [ih, List.map_cons]
      · exact ih truth levels
    | some part => cases part <;> exact ih _ _

/-! ### Guards that are left out -/

theorem all_unmarked {levels : List (Bool × Level)}
    (selected : ∀ l ∈ levels, l.1 = true → l.2.selected = true) :
    (unmarked levels).all (·.selected) = (levels.map Prod.snd).all (·.selected) := by
  induction levels with
  | nil => rfl
  | cons l rest ih =>
    have inner := ih fun l mem => selected l (List.mem_cons_of_mem _ mem)
    rcases l with ⟨_ | _, l⟩
    · show (l.selected && (unmarked rest).all _) = (l.selected && _)
      rw [inner]
    · have first : l.selected = true := selected (true, l) List.mem_cons_self rfl
      show (unmarked rest).all _ = (l.selected && _)
      rw [inner, first, Bool.true_and]

/-- The lines that are selected stay so when the guards around them are left out. -/
theorem activeLines_keptLines (truth : Nat → Bool) (levels : List (Bool × Level))
    (selected : ∀ l ∈ levels, l.1 = true → l.2.selected = true) (ls : List (List Char))
    (bare : BareGuards part? (levels.map Prod.fst) ls) :
    activeLines (fun _ => false) truth (unmarked levels) (keptLines (levels.map Prod.fst) ls) =
      (activeLines isGuard truth (levels.map Prod.snd) ls).filter (!isStated ·) := by
  induction ls generalizing truth levels with
  | nil => rfl
  | cons line rest ih =>
    obtain ⟨own, bare⟩ := bareGuards_cons.1 bare
    -- an `#elif` or an `#else` divides the innermost conditional, which is none of the guards
    have divided (divide : Level → Level) (truth : Nat → Bool)
        (bare : BareGuards part? (levels.map Prod.fst) rest)
        (other : (levels.map Prod.fst).head? ≠ some true) :
        activeLines (fun _ => false) truth ((unmarked levels).modifyHead divide)
            (keptLines (levels.map Prod.fst) rest) =
          (activeLines isGuard truth ((levels.map Prod.snd).modifyHead divide) rest).filter
            (!isStated ·) := by
      rcases levels with _ | ⟨⟨_ | _, l⟩, levels⟩
      · exact ih truth [] selected bare
      · exact ih truth ((false, divide l) :: levels) (by simpa using selected) bare
      · exact absurd rfl other
    cases part : part? line with
    | none =>
      have step := ih truth levels selected (by simpa only [enter, part] using bare)
      by_cases stated : isStated line = true
      · simp only [keptLines_cons, activeLines, part, if_pos stated, step]
        split <;> simp [stated]
      · simp only [keptLines_cons, activeLines, part, if_neg stated, all_unmarked selected, step]
        split <;> simp [stated]
    | some part' =>
      cases part' with
      | opener =>
        by_cases guard : isGuard line = true
        · have step := ih truth ((true, .begin true) :: levels)
            (by simpa [Level.begin] using selected) (by simpa [enter, part, guard] using bare)
          simpa [keptLines_cons, activeLines, part, guard] using step
        · have step := ih (fun n => truth (n + 1)) ((false, .begin (truth 0)) :: levels)
            (by simpa using selected) (by simpa [enter, part, guard] using bare)
          simpa [keptLines_cons, activeLines, part, guard] using step
      | closer =>
        have step := ih truth levels.tail
          (fun l mem => selected l (List.mem_of_mem_tail mem))
          (by simpa [enter, part, List.map_tail] using bare)
        rcases levels with _ | ⟨⟨_ | _, l⟩, levels⟩
        · simpa [keptLines_cons, activeLines, part] using step
        · simpa [keptLines_cons, activeLines, part] using step
        · simpa [keptLines_cons, activeLines, part] using step
      | elif =>
        have step := divided (·.next (truth 0)) (fun n => truth (n + 1))
          (by simpa only [enter, part] using bare) (own (by simp [part]))
        simpa [keptLines_cons, activeLines, part] using step
      | otherwise =>
        have step := divided (·.next true) truth (by simpa only [enter, part] using bare)
          (own (by simp [part]))
        simpa [keptLines_cons, activeLines, part] using step

theorem conditions_cons (forced : List Char → Bool) (line : List Char) (rest : List (List Char)) :
    conditions forced (line :: rest) =
      if hasCondition forced line then line :: conditions forced rest else conditions forced rest :=
  List.filter_cons

/-- The conditions that count are kept, whatever surrounds them. -/
theorem conditions_keptLines (nesting : List Bool) (ls : List (List Char)) :
    conditions (fun _ => false) (keptLines nesting ls) = conditions isGuard ls := by
  induction ls generalizing nesting with
  | nil => rfl
  | cons line rest ih =>
    rw [keptLines_cons, conditions_cons, hasCondition]
    cases part : part? line with
    | none =>
      dsimp only
      split <;> simp [conditions_cons, hasCondition, part, ih]
    | some part' =>
      cases part' with
      | opener => cases guard : isGuard line <;> simp [conditions_cons, hasCondition, part, ih]
      | closer =>
        dsimp only
        split <;> simp [conditions_cons, hasCondition, part, ih]
      | elif => simp [conditions_cons, hasCondition, part, ih]
      | otherwise => simp [conditions_cons, hasCondition, part, ih]

theorem conditions_map {f : List Char → List Char} (same : ∀ line, part? (f line) = part? line)
    (ls : List (List Char)) :
    conditions (fun _ => false) (ls.map f) = (conditions (fun _ => false) ls).map f := by
  have condition : hasCondition (fun _ => false) ∘ f = hasCondition fun _ => false := by
    funext line
    rw [Function.comp_apply, hasCondition, same, hasCondition]
  rw [conditions, List.filter_map, condition, conditions]

/-- Whatever truth values the conditions take, the canonical program has the active lines of its
source when every guard of an embedded profile counts as true, apart from those that every program
states itself, and tidied.  No guard may have an `#elif` or an `#else` of its own; all else about
the nesting of conditionals is free.  The conditions of the program are those of the source that
belong to no guard, one by one. -/
theorem activeLines_body (source : List Char) (truth : Nat → Bool)
    (bare : BareGuards part? [] (lines source)) :
    activeLines (fun _ => false) truth [] (lines (canonicalize source).body) =
        ((activeLines isGuard truth [] (lines source)).filter (!isStated ·)).map tidy ∧
      conditions (fun _ => false) (lines (canonicalize source).body) =
        (conditions isGuard (lines source)).map tidy := by
  rw [lines_body]
  constructor
  · rw [activeLines_map blind_part?.tidy]
    exact congrArg (List.map tidy) (activeLines_keptLines truth [] (by simp) (lines source) bare)
  · rw [conditions_map blind_part?.tidy, conditions_keptLines]

/-- A guard that stands within one conditional and holds another one. -/
theorem activeLines_body_nested :
    let source := unlines (["#ifdef A", "#ifdef GL_ES", "precision highp float;", "#if B", "x",
      "#else", "gl_FragColor\r\r", "#endif", "#endif", "#endif"].map String.toList)
    BareGuards part? [] (lines source) ∧
      activeLines (fun _ => false) (· = 0) [] (lines (canonicalize source).body) =
        ["fragColor".toList] := by
  intro source
  have bare : BareGuards part? [] (lines source) := by decide +kernel
  refine ⟨bare, ?_⟩
  rw [(activeLines_body source _ bare).1]
  decide +kernel

end ShaderFilm.Shader
