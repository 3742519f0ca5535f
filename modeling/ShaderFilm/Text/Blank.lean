/-!
# Blank characters

`isBlank` is the Unicode property White_Space; the byte order mark and the zero-width space do not
have it.  Around it stand the usual ways of trimming a text and of cutting it into blank-separated
words.
-/

namespace ShaderFilm.Text

/-- Whether `c` has the Unicode property White_Space. -/
def isBlank (c : Char) : Bool :=
  let n := c.toNat
  (9 ≤ n && n ≤ 13) || n == 0x20 || n == 0x85 || n == 0xA0 || n == 0x1680 ||
    (0x2000 ≤ n && n ≤ 0x200A) || n == 0x2028 || n == 0x2029 || n == 0x202F || n == 0x205F ||
    n == 0x3000

theorem isBlank_of_isWhitespace {c : Char} (h : c.isWhitespace = true) : isBlank c = true := by
  simp only [Char.isWhitespace, Bool.or_eq_true, decide_eq_true_eq] at h
  rcases h with ((rfl | rfl) | rfl) | rfl <;> decide

/-- A text without its leading blanks. -/
def trimStart (s : List Char) : List Char := s.dropWhile isBlank

/-- A text without its trailing blanks. -/
def trimEnd (s : List Char) : List Char := (s.reverse.dropWhile isBlank).reverse

/-- A text without the blanks at either end. -/
def trim (s : List Char) : List Char := trimEnd (trimStart s)

/-- The first word of a text and what follows the single blank after it; the rest is empty when
the text holds no blank. -/
def cutAtBlank (s : List Char) : List Char × List Char :=
  (s.takeWhile (!isBlank ·), (s.dropWhile (!isBlank ·)).drop 1)

/-- The maximal runs of characters that are not blank. -/
def words : List Char → List (List Char)
  | [] => []
  | c :: rest =>
    if isBlank c then words rest
    else
      match rest, words rest with
      | [], _ => [[c]]
      | next :: _, found =>
        if isBlank next then [c] :: found
        else
          match found with
          | [] => [[c]]
          | w :: ws => (c :: w) :: ws

end ShaderFilm.Text
