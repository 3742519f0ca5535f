/-!
# Types of the shading language

The types that values have, the words that name them, and the order in which numbers are converted
without being asked: whole numbers to unsigned ones, and both to floating-point numbers.
-/

namespace ShaderFilm.Glsl

/-- The kinds of single values. -/
inductive Scalar where
  | bool
  | int
  | uint
  | float
  deriving DecidableEq, Repr

namespace Scalar

/-- A number is converted only to a kind of higher rank. -/
def rank? : Scalar → Option Nat
  | bool => none
  | int => some 0
  | uint => some 1
  | float => some 2

def isInteger : Scalar → Bool
  | int => true
  | uint => true
  | _ => false

def isNumeric (s : Scalar) : Bool := s != bool

end Scalar

/-- A type.  Structures are told apart by their place in the list of structure definitions. -/
inductive Ty where
  | scalar (s : Scalar)
  | vector (size : Nat) (s : Scalar)
  | matrix (columns rows : Nat)
  | array (element : Ty) (size : Option Nat)
  | structure (id : Nat)
  /-- A texture, an image or a sampler. -/
  | handle (name : String)
  deriving DecidableEq, Repr, Inhabited

namespace Ty

def bool : Ty := scalar .bool

def int : Ty := scalar .int

def uint : Ty := scalar .uint

def float : Ty := scalar .float

/-- The kind of the components of a scalar, vector or matrix. -/
def component? : Ty → Option Scalar
  | scalar s => some s
  | vector _ s => some s
  | matrix _ _ => some .float
  | _ => none

/-- A type of the same shape whose components are of kind `s`. -/
def withComponent (s : Scalar) : Ty → Ty
  | scalar _ => scalar s
  | vector n _ => vector n s
  | t => t

/-- The scalar and the vectors of a kind. -/
def family (s : Scalar) : List Ty := [scalar s, vector 2 s, vector 3 s, vector 4 s]

/-- The vectors of a kind. -/
def vectors (s : Scalar) : List Ty := [vector 2 s, vector 3 s, vector 4 s]

/-- What a value of type `t` becomes where components of kind `target` are asked for. -/
def promote (t : Ty) (target : Scalar) : Ty :=
  match t.component? with
  | none => t
  | some s =>
    match s.rank?, target.rank? with
    | some given, some wanted => if given < wanted then t.withComponent target else t
    | _, _ => t

/-- Whether a value of type `t` may stand where type `target` is asked for. -/
def fits (t target : Ty) : Bool :=
  match target.component? with
  | some s => t.promote s == target
  | none => t == target

/-! ### Words that name types -/

def sizeOfDigit? : Char → Option Nat
  | '2' => some 2
  | '3' => some 3
  | '4' => some 4
  | _ => none

/-- The kind of the components that the beginning of a type's name asks for: none at all if it is
no such beginning, and `some none` for kinds that are not supported. -/
def componentOfWord? : List Char → Option (Option Scalar)
  | [] => some (some .float)
  | ['b'] => some (some .bool)
  | ['i'] => some (some .int)
  | ['u'] => some (some .uint)
  | ['d'] => some none
  | ['f', '1', '6'] => some none
  | _ => none

/-- What is before and after the first `pattern` of three characters. -/
def cutThree (pattern : List Char) : List Char → Option (List Char × List Char)
  | a :: b :: c :: rest =>
    if [a, b, c] = pattern then some ([], rest)
    else (cutThree pattern (b :: c :: rest)).map fun (before, after) => (a :: before, after)
  | _ => none

def vectorOfWord? (word : List Char) : Option (Option Ty) := do
  let (before, after) ← cutThree "vec".toList word
  let kind ← componentOfWord? before
  match after with
  | [n] => do
    let size ← sizeOfDigit? n
    some (kind.map (vector size))
  | _ => none

def matrixOfWord? (word : List Char) : Option (Option Ty) := do
  let (before, after) ← cutThree "mat".toList word
  let kind ← componentOfWord? before
  let supported (t : Ty) : Option Ty := if kind = some .float then some t else none
  match after with
  | [n] => do
    let size ← sizeOfDigit? n
    some (supported (matrix size size))
  | [c, 'x', r] => do
    let columns ← sizeOfDigit? c
    let rows ← sizeOfDigit? r
    some (supported (matrix columns rows))
  | _ => none

/-- The shapes of textures. -/
def textureShapes : List String :=
  ["1D", "1DArray", "2D", "2DArray", "2DMS", "2DMSArray", "3D", "Cube", "CubeArray"]

/-- The shapes of images. -/
def imageShapes : List String := ["1D", "1DArray", "2D", "2DArray", "3D"]

/-- The names of the types whose values are handles. -/
def handleNames : List String :=
  ["sampler", "samplerShadow"] ++
    ["", "i", "u"].flatMap fun kind =>
      textureShapes.map (fun shape => kind ++ "texture" ++ shape) ++
        imageShapes.map (fun shape => kind ++ "image" ++ shape)

/-- The type that a word names: none if it names no type, and `some none` if it names one that is
not supported. -/
def ofWord? (word : String) : Option (Option Ty) :=
  match word with
  | "bool" => some (some bool)
  | "int" => some (some int)
  | "uint" => some (some uint)
  | "float" => some (some float)
  | "double" => some none
  | "float16_t" => some none
  | _ =>
    (vectorOfWord? word.toList).orElse fun _ =>
      (matrixOfWord? word.toList).orElse fun _ =>
        if handleNames.contains word then some (some (handle word)) else none

end Ty

end ShaderFilm.Glsl
