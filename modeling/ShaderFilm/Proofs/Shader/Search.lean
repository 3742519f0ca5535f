import ShaderFilm.Proofs.Shader.Definition
import ShaderFilm.Proofs.Text.Place

/-!
# The search for definitions

`Searches` is the search for the definition of a function, round by round: each round looks for the
name in the rest of the code and goes on behind it if no definition is there.  The search comes to an
end from every offset (`searches_definesFrom`), and what it answers is whether a definition is at one
of the places of the name (`defines_iff_standsAt`).
-/

namespace ShaderFilm.Shader

open ShaderFilm.Text

/-- What stands at `start` is defined there: behind the name is an opening parenthesis and before it
`void`, blanks aside. -/
def IsDefinition (code name : List Char) (start : Nat) : Prop :=
  (trimStart (code.drop (start + name.length))).head? = some '(' ∧
    "void".toList <:+ trimEnd (code.take start)

/-- The search for a definition in the code from `offset` on ends, with the given answer. -/
inductive Searches (code name : List Char) : (offset : Nat) → (answer : Bool) → Prop
  | missing {offset : Nat} (rest : findWord (code.drop offset) name = none) :
    Searches code name offset false
  | found {offset place : Nat} (rest : findWord (code.drop offset) name = some place)
    (here : IsDefinition code name (offset + place)) : Searches code name offset true
  | further {offset place : Nat} {answer : Bool}
    (rest : findWord (code.drop offset) name = some place)
    (other : ¬ IsDefinition code name (offset + place))
    (behind : Searches code name (offset + place + name.length) answer) :
    Searches code name offset answer

variable {code name : List Char}

theorem Searches.unique {offset : Nat} {answer answer' : Bool}
    (first : Searches code name offset answer) (second : Searches code name offset answer') :
    answer = answer' := by
  induction first with
  | missing rest =>
    cases second with
    | missing => rfl
    | found rest' | further rest' => cases rest.symm.trans rest'
  | found rest here =>
    cases second with
    | missing rest' => cases rest.symm.trans rest'
    | found => rfl
    | further rest' other =>
      cases rest.symm.trans rest'
      exact absurd here other
  | further rest other _ ih =>
    cases second with
    | missing rest' => cases rest.symm.trans rest'
    | found rest' here =>
      cases rest.symm.trans rest'
      exact absurd here other
    | further rest' _ behind =>
      cases rest.symm.trans rest'
      exact ih behind

/-- The search ends: each round that is not the last one goes on behind a name that is not empty. -/
theorem searches_definesFrom (nonempty : name ≠ []) (code : List Char) (offset : Nat) :
    Searches code name offset (definesFrom code name offset) := by
  fun_induction definesFrom code name offset with
  | case1 offset _ missing => exact .missing missing
  | case2 offset _ place rest start stop shape =>
    exact .found rest ⟨shape.1, List.isSuffixOf_iff_suffix.1 shape.2⟩
  | case3 offset _ place rest start stop shape _ ih =>
    refine .further rest (fun here => shape ?_) ih
    exact ⟨here.1, List.isSuffixOf_iff_suffix.2 here.2⟩
  | case4 offset _ place _ start stop _ stuck =>
    have := List.length_pos_iff.2 nonempty
    omega
  | case5 offset outside =>
    refine .missing ?_
    rw [List.drop_eq_nil_of_le (by omega)]
    rfl

theorem searches_iff (nonempty : name ≠ []) {offset : Nat} {answer : Bool} :
    Searches code name offset answer ↔ answer = definesFrom code name offset := by
  have ends := searches_definesFrom nonempty code offset
  exact ⟨fun search => search.unique ends, fun same => same ▸ ends⟩

theorem defining_iff_exists_standsAt :
    Defining [] code name ↔ ∃ n, StandsAt code name n ∧ IsDefinition code name n := by
  constructor
  · rintro ⟨before, after, split, ends, begins, opens, void⟩
    refine ⟨before.length, ⟨before, after, split, rfl, ends, begins⟩, ?_, ?_⟩
    · rwa [split, ← List.length_append, List.drop_left]
    · rwa [split, List.append_assoc, List.take_left]
  · rintro ⟨n, ⟨before, after, split, rfl, ends, begins⟩, opens, void⟩
    rw [split, ← List.length_append, List.drop_left] at opens
    rw [split, List.append_assoc, List.take_left] at void
    exact ⟨before, after, split, ends, begins, opens, void⟩

theorem lineDefines_iff (ident : ∀ c ∈ name, isIdentChar c = true) (nonempty : name ≠ [])
    (line : List Char) : lineDefines name line = true ↔
      ∃ n, StandsAt (codePart line) name n ∧ IsDefinition (codePart line) name n := by
  rw [lineDefines, definesFrom_iff ident nonempty]
  exact defining_iff_exists_standsAt

/-- A text defines a function just if one of its lines has a definition at a place of the name. -/
theorem defines_iff_standsAt (ident : ∀ c ∈ name, isIdentChar c = true) (nonempty : name ≠ [])
    (body : List Char) : defines body name = true ↔
      ∃ line ∈ lines body, ∃ n,
        StandsAt (codePart line) name n ∧ IsDefinition (codePart line) name n := by
  rw [defines, List.any_eq_true]
  simp only [lineDefines_iff ident nonempty]

/-- The search for a word yields the first place at which it stands alone, counted in characters or
in bytes, and nothing if there is none.  Behind a place of the word the rest of the text has the
places of the whole text and no others, and none begins before.  So the search for a definition,
which goes on behind each place that is none, ends with one answer in every line; and it finds one in
a text just if some line has, in its code, the name standing alone between `void` and an opening
parenthesis. -/
theorem search_standsAt (ident : ∀ c ∈ name, isIdentChar c = true) (nonempty : name ≠ []) :
    (∀ s, (∀ n, findWord s name = some n ↔ IsLeast {m | StandsAt s name m} n) ∧
      (findWord s name = none ↔ ∀ m, ¬ StandsAt s name m) ∧
      ∀ n, findWord s name = some n → ∀ m, StandsAt s name m →
        (encode (s.take n)).length ≤ (encode (s.take m)).length) ∧
    (∀ s n, StandsAt s name n →
      (∀ m, StandsAt (s.drop (n + name.length)) name m ↔ StandsAt s name (n + name.length + m)) ∧
      ∀ m, StandsAt s name m → n < m → n + name.length ≤ m) ∧
    (∀ line answer, Searches (codePart line) name 0 answer ↔ answer = lineDefines name line) ∧
    ∀ body, defines body name = true ↔
      ∃ line ∈ lines body, ∃ n, StandsAt (codePart line) name n ∧
        (trimStart ((codePart line).drop (n + name.length))).head? = some '(' ∧
        "void".toList <:+ trimEnd ((codePart line).take n) := by
  refine ⟨fun s => ⟨fun n => findWord_eq_some_iff ident nonempty,
    findWord_eq_none_iff ident nonempty, fun n found m stands => ?_⟩, fun s n stands => ?_,
    fun line answer => searches_iff nonempty, defines_iff_standsAt ident nonempty⟩
  · exact encode_take_le s ((isLeast_of_findWord ident nonempty found).2 stands)
  · exact ⟨standsAt_drop_iff ident nonempty stands, fun m => stands.add_length_le ident⟩

/-- A name that stands alone twice, first as no definition and then as one, behind a longer name that
ends in it and before a comment. -/
theorem search_standsAt_main :
    let name := "main".toList
    let code := "µ void remain, main; void\tmain ( ".toList
    let line := code ++ "// void main(".toList
    (∀ c ∈ name, isIdentChar c = true) ∧ name ≠ [] ∧ codePart line = code ∧
      IsLeast {m | StandsAt code name m} 15 ∧ StandsAt code name 26 ∧
      defines line name = true ∧ Searches code name 0 true := by
  intro name code line
  have ident : ∀ c ∈ name, isIdentChar c = true := List.all_eq_true.1 (by decide)
  have nonempty : name ≠ [] := by decide
  have uncommented : codePart line = code := by decide
  have single : lines line = [line] := by decide
  obtain ⟨found, behind, ends, defined⟩ := search_standsAt ident nonempty
  have first : IsLeast {m | StandsAt code name m} 15 := ((found code).1 15).1 (by decide)
  have next : IsLeast {m | StandsAt (code.drop 19) name m} 7 :=
    ((found (code.drop 19)).1 7).1 (by decide)
  have second : StandsAt code name 26 := ((behind code 15 first.1).1 7).1 next.1
  have defines : defines line name = true :=
    (defined line).2 ⟨line, by simp [single], 26, uncommented ▸ second, by decide, by decide⟩
  have search : Searches (codePart line) name 0 true := by
    rw [Shader.defines, single, List.any_cons, List.any_nil, Bool.or_false] at defines
    exact (ends line true).2 defines.symm
  exact ⟨ident, nonempty, uncommented, first, second, defines, uncommented ▸ search⟩

end ShaderFilm.Shader
