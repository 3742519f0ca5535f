import Mathlib.Data.List.Basic
import Mathlib.Data.List.TakeDrop
import Mathlib.Data.List.TakeWhile
import ShaderFilm.Files.Path

/-!
# File names

The file name of a path is the last of its names: pieces that are empty or a single dot do not
count, wherever they stand, and a path that ends upward has no file name (`Path.fileName?_eq`).  A
file name is cut at its last dot, unless that is its first character (`Path.cutName_append`,
`Path.cutName_eq_self`).
-/

namespace ShaderFilm.Files

namespace Path

/-! ### Pieces -/

theorem split_append (s t : List Char) : split (s ++ '/' :: t) = split s ++ split t := by
  induction s with
  | nil => simp [split]
  | cons c s ih =>
    by_cases separator : c = '/'
    · simp [split, separator, ih]
    · cases pieces : split s with
      | nil => exact absurd pieces (split_ne_nil s)
      | cons piece more => simp [split, separator, ih, pieces]

theorem split_of_not_mem {s : List Char} (one : '/' ∉ s) : split s = [s] := by
  induction s with
  | nil => rfl
  | cons c s ih =>
    have other : c ≠ '/' := Ne.symm (List.ne_of_not_mem_cons one)
    simp [split, other, ih (List.not_mem_of_not_mem_cons one)]

theorem not_mem_of_mem_split {s piece : List Char} (mem : piece ∈ split s) : '/' ∉ piece := by
  induction s generalizing piece with
  | nil =>
    obtain rfl := List.mem_singleton.1 mem
    exact List.not_mem_nil
  | cons c s ih =>
    by_cases separator : c = '/'
    · rw [split, if_pos separator] at mem
      obtain rfl | mem := List.mem_cons.1 mem
      · exact List.not_mem_nil
      · exact ih mem
    · cases pieces : split s with
      | nil => exact absurd pieces (split_ne_nil s)
      | cons first more =>
        rw [split, if_neg separator, pieces] at mem
        obtain rfl | mem := List.mem_cons.1 mem
        · have inner : '/' ∉ first := ih (pieces ▸ List.mem_cons_self)
          exact List.not_mem_cons_of_ne_of_not_mem (Ne.symm separator) inner
        · exact ih (pieces ▸ List.mem_cons_of_mem first mem)

/-! ### Names -/

/-- The pieces of a path that name something. -/
def names (p : Path) : List (List Char) := (split p.text).filter (!isFiller ·)

theorem names_append (s t : List Char) : names ⟨s ++ '/' :: t⟩ = names ⟨s⟩ ++ names ⟨t⟩ := by
  rw [names, split_append, List.filter_append]
  rfl

theorem filter_dropFillers (pieces : List (List Char)) :
    (dropFillers pieces).filter (!isFiller ·) = pieces.filter (!isFiller ·) := by
  have skipped : (pieces.reverse.takeWhile isFiller).filter (!isFiller ·) = [] := by
    refine List.filter_eq_nil_iff.2 fun piece mem => ?_
    simp [List.mem_takeWhile_imp mem]
  have kept : (pieces.reverse.dropWhile isFiller).filter (!isFiller ·) =
      pieces.reverse.filter (!isFiller ·) := by
    conv_rhs => rw [← List.takeWhile_append_dropWhile (p := isFiller) (l := pieces.reverse)]
    rw [List.filter_append, skipped, List.nil_append]
  rw [dropFillers, List.filter_reverse, kept, List.filter_reverse, List.reverse_reverse]

/-- A dot in front is a component, but names nothing. -/
theorem components_eq (p : Path) :
    p.components = (if p.front = ['.'] then [['.']] else []) ++ p.names := by
  rw [components, behind, names, front, filter_dropFillers]
  cases pieces : split p.text with
  | nil => exact absurd pieces (split_ne_nil p.text)
  | cons first more =>
    rw [List.headD_cons, List.tail_cons, List.filter_cons]
    by_cases empty : first = []
    · simp [empty, isFiller]
    · by_cases dot : first = ['.']
      · simp [dot, isFiller]
      · simp [empty, dot, isFiller]

theorem fileName?_eq (p : Path) : p.fileName? = p.names.getLast?.filter (· != "..".toList) := by
  rw [fileName?, components_eq]
  cases last : p.names.getLast? with
  | none =>
    rw [List.getLast?_eq_none_iff.1 last]
    split_ifs <;> simp
  | some name =>
    have counts : isFiller name = false := by
      have mem : name ∈ p.names := List.mem_of_getLast? last
      simpa using (List.mem_filter.1 mem).2
    have other : name ≠ ['.'] := by
      rintro rfl
      exact absurd counts (by decide)
    rw [List.getLast?_append, last]
    simp [Option.filter, other]

/-- Separators and single dots behind a path change nothing, and neither does what is in front. -/
theorem fileName?_between {p : Path} (above : List Char) {below : List Char}
    (filled : p.names ≠ []) (fillers : ∀ piece ∈ split below, isFiller piece = true) :
    fileName? ⟨above ++ '/' :: (p.text ++ '/' :: below)⟩ = p.fileName? := by
  have none : names ⟨below⟩ = [] := by
    refine List.filter_eq_nil_iff.2 fun piece mem => ?_
    simp [fillers piece mem]
  rw [fileName?_eq, fileName?_eq, names_append, names_append, none, List.append_nil,
    List.getLast?_append_of_ne_nil _ filled]

/-- A piece that can be a file name. -/
structure IsName (name : List Char) : Prop where
  whole : '/' ∉ name
  counts : isFiller name = false
  inner : name ≠ "..".toList

theorem isName_of_fileName? {p : Path} {name : List Char} (named : p.fileName? = some name) :
    IsName name := by
  rw [fileName?_eq] at named
  obtain ⟨last, inner⟩ := Option.filter_eq_some_iff.1 named
  obtain ⟨piece, counts⟩ := List.mem_filter.1 (List.mem_of_getLast? last)
  exact ⟨not_mem_of_mem_split piece, by simpa using counts, bne_iff_ne.1 inner⟩

namespace IsName

variable {name : List Char} (named : IsName name)

include named

theorem ne_nil : name ≠ [] := by
  rintro rfl
  exact absurd named.counts (by decide)

theorem isAbsolute_eq : isAbsolute ⟨name⟩ = false := by
  refine Bool.eq_false_iff.2 fun root => ?_
  exact named.whole (List.mem_of_head? (beq_iff_eq.1 root))

theorem names_eq : names ⟨name⟩ = [name] := by
  rw [names, split_of_not_mem named.whole, List.filter_singleton, named.counts]
  rfl

theorem components_eq : components ⟨name⟩ = [name] := by
  have front : front ⟨name⟩ ≠ ['.'] := by
    rw [Path.front, split_of_not_mem named.whole, List.headD_cons]
    rintro rfl
    exact absurd named.counts (by decide)
  rw [Path.components_eq, if_neg front, List.nil_append, named.names_eq]

theorem fileName?_eq : fileName? ⟨name⟩ = some name := by
  rw [Path.fileName?_eq, named.names_eq]
  exact Option.filter_eq_some_iff.2 ⟨rfl, bne_iff_ne.2 named.inner⟩

end IsName

/-! ### Stems and extensions -/

theorem span_append_cons {α : Type} {p : α → Bool} {xs ys : List α} {y : α} (all : ∀ x ∈ xs, p x)
    (other : p y = false) : (xs ++ y :: ys).span p = (xs, y :: ys) := by
  rw [List.span_eq_takeWhile_dropWhile, List.takeWhile_append_of_pos all,
    List.dropWhile_append_of_pos all, List.takeWhile_cons_of_neg (by simp [other]),
    List.dropWhile_cons_of_neg (by simp [other]), List.append_nil]

/-- What stands behind the last dot is the extension, if something stands before it. -/
theorem cutName_append {stem ending : List Char} (filled : stem ≠ []) (last : '.' ∉ ending) :
    cutName (stem ++ '.' :: ending) = (stem, some ending) := by
  have plain : ∀ c ∈ ending.reverse, (c != '.') = true := fun c mem =>
    bne_iff_ne.2 fun dot => last (dot ▸ List.mem_reverse.1 mem)
  have cut : (stem ++ '.' :: ending).reverse.span (· != '.') =
      (ending.reverse, '.' :: stem.reverse) := by
    rw [List.reverse_append, List.reverse_cons, List.append_assoc, List.singleton_append]
    exact span_append_cons plain rfl
  obtain ⟨c, rest, back⟩ := List.exists_cons_of_ne_nil (List.reverse_ne_nil_iff.2 filled)
  have front : stem = (c :: rest).reverse := by rw [← back, List.reverse_reverse]
  rw [cutName, cut, back]
  show ((c :: rest).reverse, some ending.reverse.reverse) = _
  rw [← front, List.reverse_reverse]

/-- Without a dot behind its first character a name is all stem. -/
theorem cutName_eq_self {name : List Char} (whole : '.' ∉ name.tail) :
    cutName name = (name, none) := by
  cases name with
  | nil => rfl
  | cons c rest =>
    have plain : ∀ d ∈ rest.reverse, (d != '.') = true := fun d mem =>
      bne_iff_ne.2 fun dot => whole (dot ▸ List.mem_reverse.1 mem)
    by_cases dot : c = '.'
    · have cut : (c :: rest).reverse.span (· != '.') = (rest.reverse, ['.']) := by
        rw [List.reverse_cons, dot]
        exact span_append_cons plain rfl
      rw [cutName, cut]
    · have plain' : ∀ d ∈ (c :: rest).reverse, (d != '.') = true := by
        intro d mem
        rw [List.reverse_cons] at mem
        obtain mem | mem := List.mem_append.1 mem
        · exact plain d mem
        · exact bne_iff_ne.2 (List.mem_singleton.1 mem ▸ dot)
      have cut : (c :: rest).reverse.span (· != '.') = ((c :: rest).reverse, []) := by
        rw [List.span_eq_takeWhile_dropWhile, List.takeWhile_eq_self_iff.2 plain',
          List.dropWhile_eq_nil_iff.2 plain']
      rw [cutName, cut]

/-- Every name is cut in one of the two ways. -/
theorem cutName_cases (name : List Char) :
    (∃ stem ending, stem ≠ [] ∧ '.' ∉ ending ∧ name = stem ++ '.' :: ending) ∨
      '.' ∉ name.tail := by
  cases name with
  | nil => exact .inr List.not_mem_nil
  | cons c rest =>
    by_cases dot : '.' ∈ rest
    · obtain ⟨back, front, split, last⟩ := List.eq_append_cons_of_mem (List.mem_reverse.2 dot)
      refine .inl ⟨c :: front.reverse, back.reverse, List.cons_ne_nil _ _,
        fun mem => last (List.mem_reverse.1 mem), ?_⟩
      have whole := congrArg List.reverse split
      rw [List.reverse_reverse, List.reverse_append, List.reverse_cons, List.append_assoc,
        List.singleton_append] at whole
      rw [whole, List.cons_append]
    · exact .inr dot

/-- A stem is a part of its file name. -/
theorem stem?_eq_some {p : Path} {stem : List Char} (cut : p.stem? = some stem) :
    stem ≠ [] ∧ '/' ∉ stem := by
  obtain ⟨name, named, rfl⟩ := Option.map_eq_some_iff.1 cut
  have piece := isName_of_fileName? named
  obtain ⟨stem, ending, filled, last, rfl⟩ | whole := cutName_cases name
  · rw [cutName_append filled last]
    exact ⟨filled, fun mem => piece.whole (List.mem_append_left _ mem)⟩
  · rw [cutName_eq_self whole]
    exact ⟨piece.ne_nil, piece.whole⟩

end Path

end ShaderFilm.Files
