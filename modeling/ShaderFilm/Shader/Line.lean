import ShaderFilm.Shader.Uniform
import ShaderFilm.Text.Blank
import ShaderFilm.Text.Word

/-!
# Kinds of source lines

A shader is read line by line.  `LineKind.of` says of a line whether it is one that the canonical
program states itself (version, precision, a standard uniform), whether it opens or closes a
preprocessor conditional, and in particular whether it opens the guard that singles out embedded
profiles.
-/

namespace ShaderFilm.Shader

open ShaderFilm.Text

/-- What a source line is to the canonical program. -/
inductive LineKind where
  /-- A `#version` directive. -/
  | version
  /-- The opener of a conditional that tests for an embedded profile and nothing else. -/
  | guard
  /-- The opener of any other conditional. -/
  | opener
  /-- An `#endif`. -/
  | closer
  /-- A default precision. -/
  | precision
  /-- A declaration of a standard uniform. -/
  | standardUniform
  /-- Any other line. -/
  | body
  deriving DecidableEq, Repr

namespace LineKind

/-- Whether the condition of an `#if` tests for an embedded profile, blanks aside. -/
def isGuardCondition (condition : List Char) : Bool :=
  let compact := condition.filter (!isBlank ·)
  compact == "defined(GL_ES)".toList || compact == "definedGL_ES".toList

/-- The kind of a directive, given what follows its number sign. -/
def ofDirective (directive : List Char) : LineKind :=
  let (keyword, rest) := cutAtBlank (trimStart directive)
  let argument := trim rest
  if keyword = "version".toList then version
  else if keyword = "ifdef".toList then
    if argument = "GL_ES".toList then guard else opener
  else if keyword = "if".toList then
    if isGuardCondition argument then guard else opener
  else if keyword = "ifndef".toList then opener
  else if keyword = "endif".toList then closer
  else body

/-- Whether a text names one of the standard uniforms. -/
def namesStandardUniform (s : List Char) : Bool :=
  StandardUniform.all.any fun u => hasWord s u.name.toList

/-- The kind of a line that is no directive, given without its leading blanks. -/
def ofStatement (line : List Char) : LineKind :=
  let word := firstWord line
  if word = "precision".toList then precision
  else if word = "uniform".toList then
    if namesStandardUniform line then standardUniform else body
  else body

/-- The kind of a source line. -/
def of (line : List Char) : LineKind :=
  match trimStart line with
  | '#' :: directive => ofDirective directive
  | statement => ofStatement statement

end LineKind

end ShaderFilm.Shader
