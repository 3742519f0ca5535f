import ShaderFilm.Proofs.Text.Line
import ShaderFilm.Proofs.Text.Rename
import ShaderFilm.Shader.Listing

/-!
# Listings that are read

A listing is cut into lines again by whoever reads it.  Its lines are those of the program, each
behind its number (`lines_numbered`), less a carriage return that ends one of them a second time.
The bar behind the number is the first one of the line, whatever the program holds, so number and
line can be told apart (`readListed_listingLine`).
-/

namespace ShaderFilm.Shader

open ShaderFilm.Text

/-- The number and the line that are read off a line of a listing, if it has a bar. -/
def readListed (listed : List Char) : Option (Nat × List Char) :=
  (cutAt " | ".toList listed).map fun (number, line) =>
    (Nat.ofDigitChars 10 (trimStart number) 0, line)

/-! ### Numbers of lines -/

theorem lineNumber_eq (n : Nat) :
    lineNumber n = List.replicate (4 - (Nat.toDigits 10 n).length) ' ' ++ Nat.toDigits 10 n := by
  rw [lineNumber, Nat.toString_eq_repr, Nat.toList_repr]

theorem isDigit_of_mem_toDigits {n : Nat} {c : Char} (mem : c ∈ Nat.toDigits 10 n) :
    c.isDigit = true :=
  Nat.isDigit_of_mem_toDigits (by decide) (by decide) mem

theorem not_mem_lineNumber {n : Nat} {c : Char} (blank : c ≠ ' ') (digit : c.isDigit = false) :
    c ∉ lineNumber n := by
  rw [lineNumber_eq, List.mem_append, not_or]
  refine ⟨fun mem => blank (List.eq_of_mem_replicate mem), fun mem => ?_⟩
  rw [isDigit_of_mem_toDigits mem] at digit
  cases digit

theorem trimStart_lineNumber (n : Nat) : trimStart (lineNumber n) = Nat.toDigits 10 n := by
  have blanks : ∀ c ∈ List.replicate (4 - (Nat.toDigits 10 n).length) ' ', isBlank c = true := by
    intro c mem
    rw [List.eq_of_mem_replicate mem]
    decide
  rw [lineNumber_eq, trimStart, List.dropWhile_append_of_pos blanks]
  cases digits : Nat.toDigits 10 n with
  | nil => rfl
  | cons c rest =>
    have digit : c.isDigit = true := isDigit_of_mem_toDigits (digits ▸ List.mem_cons_self)
    have solid : isBlank c = false := by
      refine isBlank_of_isIdentChar ?_
      rw [isIdentChar, Char.isAlphanum, digit, Bool.or_true, Bool.true_or]
    rw [List.dropWhile_cons_of_neg (by simp [solid])]

/-! ### Lines behind their numbers -/

/-- Where no bar stands before, the first bar is found. -/
theorem cutAt_bar {number : List Char} (lacks : '|' ∉ number) (line : List Char) :
    cutAt " | ".toList (number ++ " | ".toList ++ line) = some (number, line) := by
  induction number with
  | nil => rfl
  | cons c number ih =>
    have inner : '|' ∉ number := List.not_mem_of_not_mem_cons lacks
    have other : " | ".toList.isPrefixOf (c :: (number ++ " | ".toList ++ line)) = false := by
      rw [← Bool.not_eq_true, List.isPrefixOf_iff_prefix]
      show ¬ ' ' :: '|' :: [' '] <+: _
      rw [List.cons_prefix_cons, not_and]
      cases number with
      | nil => simp
      | cons d number =>
        have : '|' ≠ d := List.ne_of_not_mem_cons inner
        simp [this]
    rw [List.cons_append, List.cons_append, cutAt, other, ih inner]
    rfl

/-- Number and line are read off a line of a listing as they were written. -/
theorem readListed_listingLine (n : Nat) (line : List Char) :
    readListed (listingLine n line) = some (n, line) := by
  have bar : '|' ∉ lineNumber n := not_mem_lineNumber (by decide) (by decide)
  rw [readListed, listingLine, cutAt_bar bar, Option.map_some]
  dsimp only
  rw [trimStart_lineNumber, Nat.ofDigitChars_ten_toDigits]

theorem listingLine_inj {m n : Nat} {line other : List Char} :
    listingLine m line = listingLine n other ↔ m = n ∧ line = other := by
  constructor
  · intro same
    have read := congrArg readListed same
    rw [readListed_listingLine, readListed_listingLine] at read
    exact Prod.mk.inj (Option.some.inj read)
  · rintro ⟨rfl, rfl⟩
    rfl

/-! ### Lines of a listing -/

theorem dropReturn_append {front : List Char} (lacks : '\r' ∉ front) (line : List Char) :
    dropReturn (front ++ line) = front ++ dropReturn line := by
  rcases List.eq_nil_or_concat line with rfl | ⟨start, c, rfl⟩
  · rw [List.append_nil, dropReturn_of_not_mem lacks]
    exact (List.append_nil front).symm
  · rw [List.concat_eq_append, dropReturn, dropReturn, ← List.append_assoc,
      List.getLast?_concat, List.getLast?_concat, List.dropLast_concat, List.dropLast_concat]
    split
    · rfl
    · exact List.append_assoc front start [c]

theorem dropReturn_listingLine (n : Nat) (line : List Char) :
    dropReturn (listingLine n line) = listingLine n (dropReturn line) := by
  have number : '\r' ∉ lineNumber n := not_mem_lineNumber (by decide) (by decide)
  refine dropReturn_append (List.not_mem_append ?_ ?_) line
  · exact number
  · decide

theorem newline_not_mem_listingLines {n : Nat} {ls : List (List Char)}
    (lacks : ∀ line ∈ ls, '\n' ∉ line) : ∀ line ∈ listingLines n ls, '\n' ∉ line := by
  induction ls generalizing n with
  | nil => exact nofun
  | cons first ls ih =>
    have number : '\n' ∉ lineNumber n := not_mem_lineNumber (by decide) (by decide)
    have here : '\n' ∉ listingLine n first :=
      List.not_mem_append (List.not_mem_append number (by decide)) (lacks first List.mem_cons_self)
    intro line mem
    rcases List.mem_cons.1 mem with rfl | later
    · exact here
    · exact ih (fun l mem => lacks l (List.mem_cons_of_mem first mem)) line later

theorem map_dropReturn_listingLines (n : Nat) (ls : List (List Char)) :
    (listingLines n ls).map dropReturn = listingLines n (ls.map dropReturn) := by
  induction ls generalizing n with
  | nil => rfl
  | cons line ls ih =>
    rw [listingLines, List.map_cons, dropReturn_listingLine, ih, List.map_cons, listingLines]

theorem length_listingLines (n : Nat) (ls : List (List Char)) :
    (listingLines n ls).length = ls.length := by
  induction ls generalizing n with
  | nil => rfl
  | cons line ls ih => rw [listingLines, List.length_cons, ih, List.length_cons]

theorem getElem?_listingLines (n : Nat) (ls : List (List Char)) (k : Nat) :
    (listingLines n ls)[k]? = ls[k]?.map (listingLine (n + k)) := by
  induction ls generalizing n k with
  | nil => rfl
  | cons line ls ih =>
    cases k with
    | zero => rfl
    | succ k =>
      rw [listingLines, List.getElem?_cons_succ, ih, List.getElem?_cons_succ, Nat.add_assoc,
        Nat.add_comm 1]

/-- A listing that is cut into lines has the lines of the program behind their numbers. -/
theorem lines_numbered (p : Canonical) :
    lines p.numbered = listingLines 1 ((lines p.text).map dropReturn) := by
  rw [Canonical.numbered, lines_unlines (newline_not_mem_listingLines newline_not_mem_lines),
    map_dropReturn_listingLines]

theorem getElem?_numbered (p : Canonical) (k : Nat) :
    (lines p.numbered)[k]? =
      (lines p.text)[k]?.map fun line => listingLine (k + 1) (dropReturn line) := by
  rw [lines_numbered, getElem?_listingLines, List.getElem?_map, Option.map_map, Nat.add_comm 1]
  rfl

/-- A listing has as many lines as the program.  Each of them is a number, counted from 1 and
right-aligned to at least four columns, a bar and the line of the program, less a carriage return at
its end.  Number and line are read off it, and no other number and line have the same listing. -/
theorem numbered_readListed (p : Canonical) :
    (lines p.numbered).length = (lines p.text).length ∧
    (∀ k, (lines p.numbered)[k]? = (lines p.text)[k]?.map fun line =>
      let digits := Nat.toDigits 10 (k + 1)
      List.replicate (4 - digits.length) ' ' ++ digits ++ " | ".toList ++ dropReturn line) ∧
    (∀ k, (lines p.numbered)[k]?.bind readListed =
      (lines p.text)[k]?.map fun line => (k + 1, dropReturn line)) ∧
    ∀ m n line other, listingLine m line = listingLine n other ↔ m = n ∧ line = other := by
  refine ⟨?_, fun k => ?_, fun k => ?_, fun m n line other => listingLine_inj⟩
  · rw [lines_numbered, length_listingLines, List.length_map]
  · simp only [getElem?_numbered, listingLine, lineNumber_eq]
  · rw [getElem?_numbered]
    cases (lines p.text)[k]? with
    | none => rfl
    | some line => rw [Option.map_some, Option.bind_some, readListed_listingLine, Option.map_some]

example : readListed (listingLine 12345 "7 | 8\r".toList) = some (12345, "7 | 8\r".toList) := by
  decide

end ShaderFilm.Shader
