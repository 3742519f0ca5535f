import ShaderFilm.Shader.Canonical

/-!
# Numbered listings

A program with its line numbers, to be read beside a compiler's diagnostics.
-/

namespace ShaderFilm.Shader

open ShaderFilm.Text

/-- A number right-aligned to at least four columns. -/
def lineNumber (n : Nat) : List Char :=
  let digits := (toString n).toList
  List.replicate (4 - digits.length) ' ' ++ digits

/-- A line of a listing. -/
def listingLine (n : Nat) (line : List Char) : List Char :=
  lineNumber n ++ " | ".toList ++ line

/-- The lines with their numbers, the first of which is `n`. -/
def listingLines : (n : Nat) → List (List Char) → List (List Char)
  | _, [] => []
  | n, line :: rest => listingLine n line :: listingLines (n + 1) rest

/-- The text of the program with its lines numbered from 1. -/
def Canonical.numbered (p : Canonical) : List Char := unlines (listingLines 1 (lines p.text))

end ShaderFilm.Shader
