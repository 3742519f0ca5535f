import ShaderFilm.Glsl.Ty

/-!
# Built-in functions

The functions that every shader finds declared, as lists of signatures.  Most of them exist for a
scalar and for vectors of each size.
-/

namespace ShaderFilm.Glsl

/-- The parameter types and the result type of a function without output parameters. -/
structure Signature where
  parameters : List Ty
  result : Ty
  deriving DecidableEq, Repr

namespace Builtin

/-- `count` parameters and a result of the same type, for each type of the list. -/
def uniformly (count : Nat) (tys : List Ty) : List Signature :=
  tys.map fun t => ⟨List.replicate count t, t⟩

/-- For each type of the list a signature made from it. -/
def each (tys : List Ty) (make : Ty → Signature) : List Signature := tys.map make

def floats : List Ty := Ty.family .float

/-- Functions of one floating-point argument that answer with its type. -/
def oneFloat : List String :=
  ["radians", "degrees", "sin", "cos", "tan", "asin", "acos", "atan", "sinh", "cosh", "tanh",
   "asinh", "acosh", "atanh", "exp", "log", "exp2", "log2", "sqrt", "inversesqrt", "floor", "ceil",
   "trunc", "round", "roundEven", "fract", "normalize", "dFdx", "dFdy", "dFdxFine", "dFdyFine",
   "dFdxCoarse", "dFdyCoarse", "fwidth", "fwidthFine", "fwidthCoarse"]

/-- The square and the other matrices. -/
def matrices : List Ty := [2, 3, 4].flatMap fun c => [2, 3, 4].map fun r => Ty.matrix c r

def squares : List Ty := [2, 3, 4].map fun n => Ty.matrix n n

/-- The kinds of numbers. -/
def numbers : List Scalar := [.float, .int, .uint]

/-- The shapes of textures with the number of coordinates that pick a texel. -/
def sampled : List (String × Nat) :=
  [("1D", 1), ("1DArray", 2), ("2D", 2), ("2DArray", 3), ("3D", 3), ("Cube", 3), ("CubeArray", 4)]

/-- A scalar for one coordinate, a vector for more. -/
def coordinates (s : Scalar) (n : Nat) : Ty := if n = 1 then .scalar s else .vector n s

def texel (kind : String) : Ty :=
  .vector 4 (if kind == "i" then .int else if kind == "u" then .uint else .float)

/-- Signatures that exist for each pair of a texture with a sampler. -/
def perSampled (make : (combined : Ty) → (texel : Ty) → (coordinates : Nat) → List Signature) :
    List Signature :=
  ["", "i", "u"].flatMap fun kind =>
    sampled.flatMap fun (shape, n) =>
      make (.handle (kind ++ "sampler" ++ shape)) (texel kind) n

/-- The pairing of a texture with a sampler, which is written as a call. -/
def combining (name : String) : List Signature :=
  sampled.flatMap fun (shape, _) =>
    ["", "i", "u"].filterMap fun kind =>
      if name == "sampler" ++ shape then
        some ⟨[.handle (kind ++ "texture" ++ shape), .handle "sampler"],
          .handle (kind ++ "sampler" ++ shape)⟩
      else none

/-- The signatures of a built-in function; none if there is no such function. -/
def signatures (name : String) : List Signature :=
  if oneFloat.contains name then
    uniformly 1 floats ++ (if name == "atan" then uniformly 2 floats else [])
  else
    match name with
    | "pow" => uniformly 2 floats
    | "abs" => uniformly 1 (floats ++ Ty.family .int)
    | "sign" => uniformly 1 (floats ++ Ty.family .int)
    | "mod" =>
      uniformly 2 floats ++ each (Ty.vectors .float) fun t => ⟨[t, .float], t⟩
    | "min" => extremum
    | "max" => extremum
    | "clamp" =>
      numbers.flatMap fun s =>
        uniformly 3 (Ty.family s) ++ each (Ty.vectors s) fun t => ⟨[t, .scalar s, .scalar s], t⟩
    | "mix" =>
      uniformly 3 floats ++ each (Ty.vectors .float) (fun t => ⟨[t, t, .float], t⟩) ++
        each floats fun t => ⟨[t, t, t.withComponent .bool], t⟩
    | "step" => uniformly 2 floats ++ each (Ty.vectors .float) fun t => ⟨[.float, t], t⟩
    | "smoothstep" =>
      uniformly 3 floats ++ each (Ty.vectors .float) fun t => ⟨[.float, .float, t], t⟩
    | "length" => each floats fun t => ⟨[t], .float⟩
    | "distance" => each floats fun t => ⟨[t, t], .float⟩
    | "dot" => each floats fun t => ⟨[t, t], .float⟩
    | "cross" => [⟨[.vector 3 .float, .vector 3 .float], .vector 3 .float⟩]
    | "faceforward" => uniformly 3 floats
    | "reflect" => uniformly 2 floats
    | "refract" => each floats fun t => ⟨[t, t, .float], t⟩
    | "fma" => uniformly 3 floats
    | "ldexp" => each floats fun t => ⟨[t, t.withComponent .int], t⟩
    | "isnan" => each floats fun t => ⟨[t], t.withComponent .bool⟩
    | "isinf" => each floats fun t => ⟨[t], t.withComponent .bool⟩
    | "lessThan" => comparison numbers
    | "lessThanEqual" => comparison numbers
    | "greaterThan" => comparison numbers
    | "greaterThanEqual" => comparison numbers
    | "equal" => comparison (numbers ++ [.bool])
    | "notEqual" => comparison (numbers ++ [.bool])
    | "any" => each (Ty.vectors .bool) fun t => ⟨[t], .bool⟩
    | "all" => each (Ty.vectors .bool) fun t => ⟨[t], .bool⟩
    | "not" => uniformly 1 (Ty.vectors .bool)
    | "matrixCompMult" => uniformly 2 matrices
    | "outerProduct" =>
      [2, 3, 4].flatMap fun c => [2, 3, 4].map fun r =>
        ⟨[.vector r .float, .vector c .float], .matrix c r⟩
    | "transpose" =>
      [2, 3, 4].flatMap fun c => [2, 3, 4].map fun r => ⟨[.matrix c r], .matrix r c⟩
    | "determinant" => each squares fun t => ⟨[t], .float⟩
    | "inverse" => uniformly 1 squares
    | "floatBitsToInt" => each floats fun t => ⟨[t], t.withComponent .int⟩
    | "floatBitsToUint" => each floats fun t => ⟨[t], t.withComponent .uint⟩
    | "intBitsToFloat" => each (Ty.family .int) fun t => ⟨[t], t.withComponent .float⟩
    | "uintBitsToFloat" => each (Ty.family .uint) fun t => ⟨[t], t.withComponent .float⟩
    | "packSnorm2x16" => [⟨[.vector 2 .float], .uint⟩]
    | "packUnorm2x16" => [⟨[.vector 2 .float], .uint⟩]
    | "packHalf2x16" => [⟨[.vector 2 .float], .uint⟩]
    | "packSnorm4x8" => [⟨[.vector 4 .float], .uint⟩]
    | "packUnorm4x8" => [⟨[.vector 4 .float], .uint⟩]
    | "unpackSnorm2x16" => [⟨[.uint], .vector 2 .float⟩]
    | "unpackUnorm2x16" => [⟨[.uint], .vector 2 .float⟩]
    | "unpackHalf2x16" => [⟨[.uint], .vector 2 .float⟩]
    | "unpackSnorm4x8" => [⟨[.uint], .vector 4 .float⟩]
    | "unpackUnorm4x8" => [⟨[.uint], .vector 4 .float⟩]
    | "bitCount" => bits
    | "findLSB" => bits
    | "findMSB" => bits
    | "bitfieldReverse" => uniformly 1 (Ty.family .int ++ Ty.family .uint)
    | "bitfieldExtract" =>
      each (Ty.family .int ++ Ty.family .uint) fun t => ⟨[t, .int, .int], t⟩
    | "bitfieldInsert" =>
      each (Ty.family .int ++ Ty.family .uint) fun t => ⟨[t, t, .int, .int], t⟩
    | "texture" =>
      perSampled fun c t n =>
        [⟨[c, coordinates .float n], t⟩, ⟨[c, coordinates .float n, .float], t⟩]
    | "textureLod" => perSampled fun c t n => [⟨[c, coordinates .float n, .float], t⟩]
    | "texelFetch" => perSampled fun c t n => [⟨[c, coordinates .int n, .int], t⟩]
    | "textureSize" =>
      perSampled fun c _ n =>
        [⟨[c, .int], if c == .handle "samplerCube" then .vector 2 .int else coordinates .int n⟩]
    | _ => combining name
where
  /-- Two arguments of one type, or a vector and a scalar. -/
  extremum : List Signature :=
    numbers.flatMap fun s =>
      uniformly 2 (Ty.family s) ++ each (Ty.vectors s) fun t => ⟨[t, .scalar s], t⟩
  /-- Comparison component by component. -/
  comparison (kinds : List Scalar) : List Signature :=
    kinds.flatMap fun s => each (Ty.vectors s) fun t => ⟨[t, t], t.withComponent .bool⟩
  /-- Counting and finding bits. -/
  bits : List Signature :=
    each (Ty.family .int ++ Ty.family .uint) fun t => ⟨[t], t.withComponent .int⟩

/-- Whether a call with constant arguments is itself a constant. -/
def isConstant (name : String) (count : Nat) : Bool :=
  !(["mix", "smoothstep", "reflect", "refract", "faceforward", "outerProduct", "transpose",
     "determinant", "inverse", "ldexp", "isnan", "isinf", "any", "all", "floatBitsToInt",
     "floatBitsToUint", "intBitsToFloat", "uintBitsToFloat", "matrixCompMult", "texture",
     "textureLod", "texelFetch", "textureSize"].contains name ||
    (name == "atan" && count == 2) || name.startsWith "dFd" || name.startsWith "fwidth" ||
    name.startsWith "pack" || name.startsWith "unpack" || name.startsWith "sampler")

end Builtin

end ShaderFilm.Glsl
