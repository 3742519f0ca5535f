import ShaderFilm.Text.Blank
import ShaderFilm.Text.Line
import ShaderFilm.Text.Word

/-!
# Declarations found in shader lines

Two line-level recognisers: the name that a line declares as a fragment output, and whether a line
defines a function that returns nothing.  Both look only at the part of the line before `//`.
-/

namespace ShaderFilm.Shader

open ShaderFilm.Text

/-- The part of a line before its line comment. -/
def codePart (line : List Char) : List Char :=
  match cutAt "//".toList line with
  | some (code, _) => code
  | none => line

/-- A line without a leading layout qualifier: none if the qualifier is not closed. -/
def skipLayout (line : List Char) : Option (List Char) :=
  if firstWord line = "layout".toList then
    (cutAt [')'] line).map fun (_, rest) => trimStart rest
  else some line

/-- The name that a line such as `layout(location = 0) out vec4 name;` declares as an output.
Parameters of functions are never taken for outputs, for they are no statements of their own. -/
def outputName? (line : List Char) : Option (List Char) := do
  let rest ← skipLayout (trim (codePart line))
  if firstWord rest ≠ "out".toList then none
  let (statement, _) ← cutAt [';'] (rest.drop 3)
  if statement.any (fun c => "(),\x7b=".toList.contains c) then none
  let name ← (words statement).getLast?
  if name.all isIdentChar then some name else none

/-- Whether some whole-word occurrence of `name` in `code`, from `offset` on, is followed by an
opening parenthesis and preceded by text that ends in `void`, blanks aside.  The search goes on
behind each occurrence that is not. -/
def definesFrom (code name : List Char) (offset : Nat) : Bool :=
  if _inside : offset < code.length then
    match findWord (code.drop offset) name with
    | none => false
    | some found =>
      let start := offset + found
      let stop := start + name.length
      if (trimStart (code.drop stop)).head? = some '(' ∧
          "void".toList.isSuffixOf (trimEnd (code.take start)) then true
      else if _forward : offset < stop then definesFrom code name stop
      else false
  else false
termination_by code.length - offset

/-- Whether a line defines or declares the function `name` with result type `void`. -/
def lineDefines (name line : List Char) : Bool := definesFrom (codePart line) name 0

/-- Whether some line of the text defines or declares the function `name`. -/
def defines (text name : List Char) : Bool := (lines text).any (lineDefines name)

end ShaderFilm.Shader
