import ShaderFilm.Proofs.Files.Path

/-!
# Paths without capital letters

Separators and dots are no letters, so a path in lower case names the same as the path, in lower
case: its names, its file name and its extension are those of the path (`Path.extension?_lower`).
-/

namespace ShaderFilm.Files

theorem toLower_cases (c : Char) :
    ('A'.toNat ≤ c.toNat ∧ c.toNat ≤ 'Z'.toNat ∧ c.toLower.toNat = c.toNat + 32) ∨
      c.toLower = c := by
  unfold Char.toLower
  split
  · next upper =>
    have first : 'A'.toNat ≤ c.toNat := UInt32.le_iff_toNat_le.1 upper.1
    have last : c.toNat ≤ 90 := UInt32.le_iff_toNat_le.1 upper.2
    refine .inl ⟨first, last, ?_⟩
    show (c.val + ('a'.val - 'A'.val)).toNat = c.toNat + 32
    rw [UInt32.toNat_add]
    exact Nat.mod_eq_of_lt (show c.toNat + 32 < 2 ^ 32 by omega)
  · exact .inr rfl

theorem toLower_toLower (c : Char) : c.toLower.toLower = c.toLower := by
  obtain ⟨first, -, sum⟩ | same := toLower_cases c
  · obtain ⟨-, last, -⟩ | same := toLower_cases c.toLower
    · have : 'A'.toNat + 32 = 97 ∧ 'Z'.toNat = 90 := ⟨rfl, rfl⟩
      omega
    · exact same
  · rw [same, same]

/-- What comes before all letters is no letter in lower case. -/
theorem toLower_eq_iff {c d : Char} (early : d.toNat < 'A'.toNat) : c.toLower = d ↔ c = d := by
  obtain ⟨first, -, sum⟩ | same := toLower_cases c
  · refine iff_of_false ?_ ?_
    · rintro rfl
      omega
    · rintro rfl
      omega
  · rw [same]

theorem map_toLower_eq_iff {name word : List Char}
    (early : word.all (·.toNat < 'A'.toNat) = true) :
    name.map Char.toLower = word ↔ name = word := by
  induction name generalizing word with
  | nil => rfl
  | cons c name ih =>
    cases word with
    | nil => exact iff_of_false (List.cons_ne_nil _ _) (List.cons_ne_nil c name)
    | cons d word =>
      obtain ⟨here, behind⟩ := Bool.and_eq_true_iff.1 early
      rw [List.map_cons, List.cons.injEq, List.cons.injEq,
        toLower_eq_iff (of_decide_eq_true here), ih behind]

theorem mem_map_toLower_iff {name : List Char} {d : Char} (early : d.toNat < 'A'.toNat) :
    d ∈ name.map Char.toLower ↔ d ∈ name := by
  rw [List.mem_map]
  constructor
  · rintro ⟨c, mem, same⟩
    rwa [← (toLower_eq_iff early).1 same]
  · exact fun mem => ⟨d, mem, (toLower_eq_iff early).2 rfl⟩

namespace Path

/-- The path in lower case. -/
def lower (p : Path) : Path := ⟨p.text.map Char.toLower⟩

theorem split_map_toLower (s : List Char) :
    split (s.map Char.toLower) = (split s).map (List.map Char.toLower) := by
  induction s with
  | nil => rfl
  | cons c s ih =>
    have separator : c.toLower = '/' ↔ c = '/' := toLower_eq_iff (by decide)
    rw [List.map_cons, split, split, ih]
    by_cases slash : c = '/'
    · rw [if_pos slash, if_pos (separator.2 slash), List.map_cons]
      rfl
    · rw [if_neg slash, if_neg (mt separator.1 slash)]
      cases split s with
      | nil => rfl
      | cons piece more => rfl

theorem isFiller_map_toLower (piece : List Char) :
    isFiller (piece.map Char.toLower) = isFiller piece := by
  have dot : piece.map Char.toLower = ['.'] ↔ piece = ['.'] := map_toLower_eq_iff (by decide)
  rw [isFiller, isFiller, List.isEmpty_map, Bool.eq_iff_iff, Bool.or_eq_true, Bool.or_eq_true,
    beq_iff_eq, beq_iff_eq, dot]

theorem names_lower (p : Path) : p.lower.names = p.names.map (List.map Char.toLower) := by
  have same : (fun piece => !isFiller piece) ∘ List.map Char.toLower = (!isFiller ·) := by
    funext piece
    rw [Function.comp_apply, isFiller_map_toLower]
  rw [names, names, lower, split_map_toLower, List.filter_map, same]

theorem fileName?_lower (p : Path) :
    p.lower.fileName? = p.fileName?.map (List.map Char.toLower) := by
  rw [fileName?_eq, fileName?_eq, names_lower, List.getLast?_map]
  cases p.names.getLast? with
  | none => rfl
  | some name =>
    have inner : (name.map Char.toLower != "..".toList) = (name != "..".toList) := by
      rw [Bool.eq_iff_iff, bne_iff_ne, bne_iff_ne]
      exact not_congr (map_toLower_eq_iff (by decide))
    rw [Option.map_some, Option.filter, Option.filter, inner]
    split <;> rfl

theorem cutName_map_toLower (name : List Char) :
    (cutName (name.map Char.toLower)).2 = (cutName name).2.map (List.map Char.toLower) := by
  obtain ⟨stem, ending, filled, last, rfl⟩ | whole := cutName_cases name
  · have last' : '.' ∉ ending.map Char.toLower := mt (mem_map_toLower_iff (by decide)).1 last
    have filled' : stem.map Char.toLower ≠ [] := mt List.map_eq_nil_iff.1 filled
    rw [cutName_append filled last, List.map_append, List.map_cons]
    exact congrArg Prod.snd (cutName_append filled' last')
  · have whole' : '.' ∉ (name.map Char.toLower).tail := by
      rw [← List.map_tail]
      exact mt (mem_map_toLower_iff (by decide)).1 whole
    rw [cutName_eq_self whole, cutName_eq_self whole']
    rfl

theorem extension?_lower (p : Path) :
    p.lower.extension? = p.extension?.map (List.map Char.toLower) := by
  rw [extension?, extension?, fileName?_lower]
  cases p.fileName? with
  | none => rfl
  | some name => exact cutName_map_toLower name

end Path

end ShaderFilm.Files
