import ShaderFilm.Shader.Declaration
import ShaderFilm.Shader.Line

/-!
# The canonical program

Shaders come in several dialects: those that write `gl_FragColor`, those that declare their own
output, and those that define `mainImage` alone.  `canonicalize` brings each of them into one form:
a fixed header, an output declaration where the shader has none, the kept lines of the shader, and
an entry point where only `mainImage` is defined.  It never fails; a program that is no valid shader
is found out when it is compiled.
-/

namespace ShaderFilm.Shader

open ShaderFilm.Text

/-- The output that a program writes when it declares none. -/
def defaultOutput : List Char := "fragColor".toList

/-- The implicit output of the oldest dialect. -/
def legacyOutput : List Char := "gl_FragColor".toList

/-- Renames the implicit output of the oldest dialect. -/
def renameOutput (line : List Char) : List Char := replaceAll legacyOutput defaultOutput line

/-- The lines that the canonical program takes over.  `nesting` holds the conditionals that are
open, innermost first, with `true` for those whose opener was dropped: the `#endif` of such a one
is dropped as well. -/
def keptLines : (nesting : List Bool) → List (List Char) → List (List Char)
  | _, [] => []
  | nesting, line :: rest =>
    match LineKind.of line with
    | .version | .precision | .standardUniform => keptLines nesting rest
    | .guard => keptLines (true :: nesting) rest
    | .opener => line :: keptLines (false :: nesting) rest
    | .closer =>
      if nesting.head? = some true then keptLines nesting.tail rest
      else line :: keptLines nesting.tail rest
    | .body => line :: keptLines nesting rest

/-- The part of the canonical program that stems from the source. -/
def bodyOf (source : List Char) : List Char :=
  unlines ((keptLines [] (lines source)).map renameOutput)

/-- A program in canonical form. -/
structure Canonical where
  /-- What was taken over from the source. -/
  body : List Char
  /-- The output that the body declares, the first one if there are several. -/
  declared : Option (List Char)
  /-- Whether an entry point is added that calls `mainImage`. -/
  addsEntry : Bool
  deriving DecidableEq, Repr

namespace Canonical

/-- The output that the program writes. -/
def outputName (p : Canonical) : List Char := p.declared.getD defaultOutput

/-- Whether the output declaration is not the body's own. -/
def addsOutput (p : Canonical) : Bool := p.declared.isNone

/-- The lines that open every program. -/
def header : List Char :=
  unlines (["#version 450".toList, []] ++ StandardUniform.all.map (·.declaration.toList))

/-- The declaration that stands in for a missing one. -/
def outputDeclaration : List Char :=
  unlines ["layout(location = 0) out vec4 fragColor;".toList]

/-- The entry point that calls `mainImage` and writes its colour to `output`. -/
def entry (output : List Char) : List Char :=
  unlines [[], "void main() \x7b".toList,
    "    vec4 shadereel_color = vec4(0.0, 0.0, 0.0, 1.0);".toList,
    "    mainImage(shadereel_color, gl_FragCoord.xy);".toList,
    "    ".toList ++ output ++ " = shadereel_color;".toList, "\x7d".toList]

/-- The text of the program. -/
def text (p : Canonical) : List Char :=
  header ++ (if p.addsOutput then outputDeclaration else []) ++ '\n' :: p.body ++
    (if p.addsEntry then entry p.outputName else [])

end Canonical

/-- The canonical program of a source text. -/
def canonicalize (source : List Char) : Canonical :=
  let body := bodyOf source
  { body
    declared := (lines body).findSome? outputName?
    addsEntry := defines body "mainImage".toList && !defines body "main".toList }

end ShaderFilm.Shader
