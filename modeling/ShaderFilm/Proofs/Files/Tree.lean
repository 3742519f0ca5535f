import Mathlib.Logic.Relation
import Mathlib.Tactic.SplitIfs
import ShaderFilm.Files.Tree

/-!
# Trees that grow and trees that shrink

Making the directory that a path lies in only adds to a tree, and all that it adds are directories to
which paths above that path lead (`makeParent_grows`).  When the file that a path leads to is removed,
the path leads nowhere any more (`remove_of_exists`).
-/

namespace ShaderFilm.Files

/-- The path `q` is `p` without some of its last components, one at least. -/
def Path.Above (q p : Path) : Prop := Relation.TransGen (fun q p => p.parent? = some q) q p

namespace Tree

/-! ### What stands under names -/

@[simp] theorem find?_nil (t : Tree) : t.find? [] = some .directory := by
  simp [find?]

theorem lookup_filter_ne {names other : Names} (differ : other ≠ names)
    (entries : List (Names × Node)) :
    (entries.filter (·.1 != names)).lookup other = entries.lookup other := by
  induction entries with
  | nil => rfl
  | cons entry rest ih =>
    obtain ⟨found, node⟩ := entry
    by_cases same : found = names
    · subst same
      have unequal : (other == found) = false := by simp [differ]
      simp [List.lookup_cons, unequal, ih]
    · simp [List.lookup_cons, same, ih]

theorem find?_put (t : Tree) {names : Names} (node : Node) (filled : names ≠ []) :
    (t.put names node).find? names = some node := by
  simp [find?, put, filled]

theorem find?_put_of_ne (t : Tree) {names other : Names} (node : Node) (differ : other ≠ names) :
    (t.put names node).find? other = t.find? other := by
  have unequal : (other == names) = false := by simp [differ]
  simp [find?, put, List.lookup_cons, unequal, lookup_filter_ne differ]

theorem find?_drop (t : Tree) {names : Names} (filled : names ≠ []) :
    (t.drop names).find? names = none := by
  rw [find?, if_neg filled, drop, List.lookup_eq_none_iff]
  intro entry kept
  have differ : entry.1 ≠ names := by simpa using (List.mem_filter.1 kept).2
  simpa using differ.symm

/-! ### Where paths lead -/

/-- Where a piece of a path leads from a directory. -/
def onward (here : Names) (piece : List Char) : Names :=
  if Path.isFiller piece then here
  else if piece = "..".toList then above here
  else here ++ [piece]

theorem follow_nil_taken_iff {t : Tree} {here names : Names} {node : Node} :
    t.follow here [] = .ok (.taken names node) ↔ here = names ∧ t.find? here = some node := by
  unfold follow
  split <;> simp_all

theorem follow_of_vacant {t : Tree} {here : Names} (vacant : t.find? here = none)
    (pieces : List (List Char)) : t.follow here pieces = .error .notFound := by
  cases pieces <;> simp [follow, vacant]

theorem follow_cons_taken_iff {t : Tree} {here names : Names} {node : Node} {piece : List Char}
    {rest : List (List Char)} :
    t.follow here (piece :: rest) = .ok (.taken names node) ↔
      t.find? here = some .directory ∧
        t.follow (onward here piece) rest = .ok (.taken names node) := by
  rw [follow, onward]
  split
  · next found =>
    split_ifs with filler upward inside empty
    · simp [found]
    · simp [found]
    · simp [found]
    · simp [follow_of_vacant (Option.not_isSome_iff_eq_none.1 inside)]
    · simp [follow_of_vacant (Option.not_isSome_iff_eq_none.1 inside)]
  · next node differ found => simp_all
  · next found => simp [found]

theorem find?_of_follow {t : Tree} {here names : Names} {node : Node} {pieces : List (List Char)}
    (leads : t.follow here pieces = .ok (.taken names node)) : t.find? names = some node := by
  induction pieces generalizing here with
  | nil =>
    obtain ⟨rfl, found⟩ := follow_nil_taken_iff.1 leads
    exact found
  | cons piece rest ih => exact ih (follow_cons_taken_iff.1 leads).2

/-- Whatever stands under names in the first tree stands there in the second. -/
def Kept (t u : Tree) : Prop := ∀ names node, t.find? names = some node → u.find? names = some node

theorem Kept.refl (t : Tree) : t.Kept t := fun _ _ h => h

theorem Kept.trans {t u v : Tree} (first : t.Kept u) (second : u.Kept v) : t.Kept v :=
  fun names node h => second names node (first names node h)

theorem kept_put {t : Tree} {names : Names} (node : Node) (vacant : t.find? names = none) :
    t.Kept (t.put names node) := by
  intro other found h
  have differ : other ≠ names := by
    rintro rfl
    simp [vacant] at h
  rwa [find?_put_of_ne t node differ]

theorem Kept.follow {t u : Tree} (kept : t.Kept u) {here names : Names} {node : Node}
    {pieces : List (List Char)} (leads : t.follow here pieces = .ok (.taken names node)) :
    u.follow here pieces = .ok (.taken names node) := by
  induction pieces generalizing here with
  | nil =>
    obtain ⟨same, found⟩ := follow_nil_taken_iff.1 leads
    exact follow_nil_taken_iff.2 ⟨same, kept _ _ found⟩
  | cons piece rest ih =>
    obtain ⟨found, more⟩ := follow_cons_taken_iff.1 leads
    exact follow_cons_taken_iff.2 ⟨kept _ _ found, ih more⟩

/-- A path that leads to something goes on leading there. -/
theorem Kept.locate {t u : Tree} (kept : t.Kept u) {p : Path} {names : Names} {node : Node}
    (leads : t.locate p = .ok (.taken names node)) : u.locate p = .ok (.taken names node) := by
  unfold Tree.locate at leads ⊢
  split_ifs at leads ⊢
  · exact kept.follow leads
  · exact kept.follow leads

theorem follow_empties {t : Tree} {here : Names} {pieces : List (List Char)}
    (found : t.find? here = some .directory) (empty : pieces.all List.isEmpty = true) :
    t.follow here pieces = .ok (.taken here .directory) := by
  induction pieces with
  | nil => exact follow_nil_taken_iff.2 ⟨rfl, found⟩
  | cons piece rest ih =>
    rw [List.all_cons, Bool.and_eq_true] at empty
    refine follow_cons_taken_iff.2 ⟨found, ?_⟩
    rw [onward, if_pos (by simp [Path.isFiller, empty.1])]
    exact ih empty.2

/-- Where a path leads to a free place, it leads to a directory that is made there. -/
theorem follow_put_of_free {t : Tree} {here names : Names} {asDirectory : Bool}
    {pieces : List (List Char)} (free : t.follow here pieces = .ok (.free names asDirectory)) :
    names ≠ [] ∧ t.find? names = none ∧
      (t.put names .directory).follow here pieces = .ok (.taken names .directory) := by
  induction pieces generalizing here with
  | nil =>
    rw [follow] at free
    split at free <;> simp at free
  | cons piece rest ih =>
    rw [follow] at free
    split at free
    · next found =>
      split_ifs at free with filler upward inside empty
      · obtain ⟨filled, vacant, leads⟩ := ih free
        refine ⟨filled, vacant, follow_cons_taken_iff.2 ⟨kept_put _ vacant _ _ found, ?_⟩⟩
        rwa [onward, if_pos filler]
      · obtain ⟨filled, vacant, leads⟩ := ih free
        refine ⟨filled, vacant, follow_cons_taken_iff.2 ⟨kept_put _ vacant _ _ found, ?_⟩⟩
        rwa [onward, if_neg filler, if_pos upward]
      · obtain ⟨filled, vacant, leads⟩ := ih free
        refine ⟨filled, vacant, follow_cons_taken_iff.2 ⟨kept_put _ vacant _ _ found, ?_⟩⟩
        rwa [onward, if_neg filler, if_neg upward]
      · obtain ⟨rfl, -⟩ : here ++ [piece] = names ∧ _ := by simpa using free
        have filled : here ++ [piece] ≠ [] := by simp
        have vacant := Option.not_isSome_iff_eq_none.1 inside
        refine ⟨filled, vacant, follow_cons_taken_iff.2 ⟨kept_put _ vacant _ _ found, ?_⟩⟩
        rw [onward, if_neg filler, if_neg upward]
        exact follow_empties (find?_put t _ filled) empty
    · simp at free
    · simp at free

theorem locate_put_of_free {t : Tree} {p : Path} {names : Names} {asDirectory : Bool}
    (free : t.locate p = .ok (.free names asDirectory)) :
    names ≠ [] ∧ t.find? names = none ∧
      (t.put names .directory).locate p = .ok (.taken names .directory) := by
  unfold locate at free ⊢
  split_ifs at free ⊢
  · exact follow_put_of_free free
  · exact follow_put_of_free free

/-! ### Trees that grow -/

/-- In the second tree nothing of the first is changed, and all that is new are directories to which
paths of a certain kind lead. -/
structure Grows (which : Path → Prop) (t u : Tree) : Prop where
  kept : t.Kept u
  made : ∀ names node, t.find? names = none → u.find? names = some node →
    ∃ q, which q ∧ u.locate q = .ok (.taken names .directory)

theorem Grows.refl (which : Path → Prop) (t : Tree) : Grows which t t :=
  ⟨.refl t, fun names node vacant found => by simp [vacant] at found⟩

theorem Grows.mono {which more : Path → Prop} {t u : Tree} (grows : Grows which t u)
    (wider : ∀ q, which q → more q) : Grows more t u := by
  refine ⟨grows.kept, fun names node vacant found => ?_⟩
  obtain ⟨q, kind, leads⟩ := grows.made names node vacant found
  exact ⟨q, wider q kind, leads⟩

theorem Grows.trans {which : Path → Prop} {t u v : Tree} (first : Grows which t u)
    (second : Grows which u v) : Grows which t v := by
  refine ⟨first.kept.trans second.kept, fun names node vacant found => ?_⟩
  cases between : u.find? names with
  | none => exact second.made names node between found
  | some old =>
    obtain ⟨q, kind, leads⟩ := first.made names old vacant between
    exact ⟨q, kind, second.kept.locate leads⟩

theorem makeDirectory_grows {t u : Tree} {p : Path} (made : t.makeDirectory p = .ok u) :
    Grows (· = p) t u := by
  unfold makeDirectory at made
  cases leads : t.locate p with
  | error fault => simp [leads, bind, Except.bind] at made
  | ok place =>
    cases place with
    | taken names node => simp [leads, bind, Except.bind, throw, throwThe, MonadExceptOf.throw] at made
    | free names asDirectory =>
      obtain ⟨filled, vacant, found⟩ := locate_put_of_free leads
      obtain rfl : t.put names .directory = u := by
        simpa [leads, bind, Except.bind, pure, Except.pure] using made
      refine ⟨kept_put _ vacant, fun other node old new => ?_⟩
      by_cases same : other = names
      · exact ⟨p, rfl, same ▸ found⟩
      · rw [find?_put_of_ne t _ same, old] at new
        simp at new

/-- All directories that are made lead to the given path or are the one that it names. -/
theorem makeDirectories_grows (t : Tree) (fuel : Nat) (p : Path) :
    Grows (fun q => q = p ∨ q.Above p) t (t.makeDirectories fuel p).2 := by
  induction fuel generalizing p with
  | zero => exact .refl _ t
  | succ fuel ih =>
    rw [makeDirectories]
    split
    · exact .refl _ t
    split
    · next made => exact (makeDirectory_grows made).mono fun q same => .inl same
    · split
      · exact .refl _ t
      · next parent above =>
        have grown : Grows (fun q => q = p ∨ q.Above p) t (t.makeDirectories fuel parent).2 := by
          refine (ih parent).mono fun q => ?_
          rintro (rfl | higher)
          · exact .inr (.single above)
          · exact .inr (higher.tail above)
        rcases made : t.makeDirectories fuel parent with ⟨_ | fault, left⟩
        · rw [made] at grown
          dsimp only
          split
          · next last => exact grown.trans ((makeDirectory_grows last).mono fun q same => .inl same)
          · exact grown
        · rw [made] at grown
          exact grown
    · exact .refl _ t

/-- Making the directory that a path lies in makes directories above the path and nothing else. -/
theorem makeParent_grows (t : Tree) (p : Path) : Grows (·.Above p) t (t.makeParent p).2 := by
  unfold makeParent
  split
  · exact .refl _ t
  · next parent above =>
    refine (makeDirectories_grows t _ parent).mono fun q => ?_
    rintro (rfl | higher)
    · exact .single above
    · exact higher.tail above

/-! ### Trees that shrink -/

/-- What stood under the names of a file is missed by the paths that led there. -/
theorem follow_drop_ne_taken {t : Tree} {here names : Names} {node : Node}
    {pieces : List (List Char)} (leads : t.follow here pieces = .ok (.taken names node))
    (file : node ≠ .directory) (other : Names) (found : Node) :
    (t.drop names).follow here pieces ≠ .ok (.taken other found) := by
  have stands := find?_of_follow leads
  have filled : names ≠ [] := by
    rintro rfl
    simp [file.symm] at stands
  induction pieces generalizing here with
  | nil =>
    obtain ⟨rfl, -⟩ := follow_nil_taken_iff.1 leads
    rw [follow_of_vacant (find?_drop t filled)]
    simp
  | cons piece rest ih =>
    obtain ⟨-, more⟩ := follow_cons_taken_iff.1 leads
    exact fun taken => ih more (follow_cons_taken_iff.1 taken).2

theorem exists?_iff {t : Tree} {p : Path} :
    t.exists? p = true ↔ ∃ names node, t.locate p = .ok (.taken names node) := by
  unfold exists? node?
  cases leads : t.locate p with
  | error fault => simp [bind, Except.bind]
  | ok place =>
    cases place with
    | taken names node => simp [bind, Except.bind, pure, Except.pure]
    | free names asDirectory => simp [bind, Except.bind, throw, throwThe, MonadExceptOf.throw]

theorem remove_of_taken {t : Tree} {p : Path} {names : Names} {node : Node}
    (leads : t.locate p = .ok (.taken names node)) (file : node ≠ .directory) :
    t.remove p = .ok (t.drop names) := by
  unfold remove
  rw [leads]
  cases node with
  | directory => exact absurd rfl file
  | _ => rfl

/-- A file that is removed is gone. -/
theorem remove_of_exists {t : Tree} {p : Path} (present : t.exists? p = true)
    (file : t.isDirectory p = false) :
    ∃ names, t.remove p = .ok (t.drop names) ∧ (t.drop names).exists? p = false := by
  obtain ⟨names, node, leads⟩ := exists?_iff.1 present
  have other : node ≠ .directory := by
    rintro rfl
    simp [isDirectory, node?, leads, bind, Except.bind, pure, Except.pure] at file
  refine ⟨names, remove_of_taken leads other, Bool.eq_false_iff.2 fun still => ?_⟩
  obtain ⟨found, last, taken⟩ := exists?_iff.1 still
  unfold locate at leads taken
  split_ifs at leads taken
  · exact follow_drop_ne_taken leads other found last taken
  · exact follow_drop_ne_taken leads other found last taken

end Tree

end ShaderFilm.Files
