/-!
# Paths

A path is kept as it was written.  What it names is decided by its pieces between separators:
repeated separators, separators at the end and pieces that are a single dot do not count, except for
a single dot in front.
-/

namespace ShaderFilm.Files

/-- A path as it was written. -/
structure Path where
  text : List Char
  deriving DecidableEq, Repr

namespace Path

def ofString (s : String) : Path := ⟨s.toList⟩

def toString (p : Path) : String := String.ofList p.text

/-- The pieces of a text between separators, one at least. -/
def split : List Char → List (List Char)
  | [] => [[]]
  | c :: rest =>
    if c = '/' then [] :: split rest
    else
      match split rest with
      | [] => [[c]]
      | piece :: more => (c :: piece) :: more

/-- Pieces with separators between them. -/
def join : List (List Char) → List Char
  | [] => []
  | [piece] => piece
  | piece :: more => piece ++ '/' :: join more

/-- Whether a piece does not count. -/
def isFiller (piece : List Char) : Bool := piece.isEmpty || piece == ['.']

/-- Pieces without those at the end that do not count. -/
def dropFillers (pieces : List (List Char)) : List (List Char) :=
  (pieces.reverse.dropWhile isFiller).reverse

/-- Whether a path begins at the root. -/
def isAbsolute (p : Path) : Bool := p.text.head? == some '/'

/-- The first piece, which is empty for absolute paths and for the empty one. -/
def front (p : Path) : List Char := (split p.text).headD []

/-- The pieces behind the first, up to the last that counts. -/
def behind (p : Path) : List (List Char) := dropFillers (split p.text).tail

/-- The pieces that count, in order. -/
def components (p : Path) : List (List Char) :=
  (if p.front.isEmpty then [] else [p.front]) ++ p.behind.filter (!isFiller ·)

/-- The path without its last component; none for the root and for the empty path. -/
def parent? (p : Path) : Option Path :=
  match p.behind with
  | [] => if p.front.isEmpty then none else some ⟨[]⟩
  | pieces =>
    match dropFillers pieces.dropLast with
    | [] => some ⟨if p.isAbsolute then ['/'] else p.front⟩
    | above => some ⟨join (p.front :: above)⟩

/-- The last component, unless it leads upward or to where the path begins. -/
def fileName? (p : Path) : Option (List Char) :=
  match p.components.getLast? with
  | none => none
  | some name => if name = ['.'] ∨ name = "..".toList then none else some name

/-- A file name cut at its last dot.  Without a dot, or with none but one in front, all of the name
is stem. -/
def cutName (name : List Char) : List Char × Option (List Char) :=
  match name.reverse.span (· != '.') with
  | (_, []) => (name, none)
  | (_, [_]) => (name, none)
  | (ending, _ :: stem) => (stem.reverse, some ending.reverse)

/-- The file name without its extension. -/
def stem? (p : Path) : Option (List Char) := p.fileName?.map fun name => (cutName name).1

/-- What follows the last dot of the file name. -/
def extension? (p : Path) : Option (List Char) := p.fileName?.bind fun name => (cutName name).2

/-- A path seen from another one. -/
def under (base p : Path) : Path :=
  if p.isAbsolute then p
  else if base.text.isEmpty ∨ base.text.getLast? = some '/' then ⟨base.text ++ p.text⟩
  else ⟨base.text ++ '/' :: p.text⟩

theorem split_ne_nil (s : List Char) : split s ≠ [] := by
  cases s with
  | nil => simp [split]
  | cons c rest =>
    unfold split
    split
    · simp
    · split <;> simp

/-- Nothing of a path is lost between its pieces. -/
theorem join_split (s : List Char) : join (split s) = s := by
  induction s with
  | nil => rfl
  | cons c rest ih =>
    cases hr : split rest with
    | nil => exact absurd hr (split_ne_nil rest)
    | cons piece more =>
      rw [hr] at ih
      by_cases h : c = '/'
      · simp [split, hr, h, join, ih]
      · cases more with
        | nil =>
          have : piece = rest := ih
          simp [split, hr, h, join, this]
        | cons next others =>
          simp only [join] at ih
          simp [split, hr, h, join, ih]

end Path

end ShaderFilm.Files
