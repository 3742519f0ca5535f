import ShaderFilm.Glsl.Definition

/-!
# Conditions of directives

The condition of an `#if` is a constant integer expression.  `defined` asks for a definition; a
name that is neither asked for nor defined has no value, and the condition is refused.
-/

namespace ShaderFilm.Glsl.Condition

/-- How tightly a binary operator binds. -/
def power? (op : String) : Option Nat :=
  match op with
  | "||" => some 1
  | "&&" => some 2
  | "|" => some 3
  | "^" => some 4
  | "&" => some 5
  | "==" => some 6
  | "!=" => some 6
  | "<" => some 7
  | ">" => some 7
  | "<=" => some 7
  | ">=" => some 7
  | "<<" => some 8
  | ">>" => some 8
  | "+" => some 9
  | "-" => some 9
  | "*" => some 10
  | "/" => some 10
  | "%" => some 10
  | _ => none

/-- The value of a binary operation on 64-bit words; none for a division by zero. -/
def apply (op : String) (x y : Int64) : Option Int64 :=
  let holds (b : Bool) : Option Int64 := some (if b then 1 else 0)
  match op with
  | "||" => holds (x != 0 || y != 0)
  | "&&" => holds (x != 0 && y != 0)
  | "|" => some (x ||| y)
  | "^" => some (x ^^^ y)
  | "&" => some (x &&& y)
  | "==" => holds (x == y)
  | "!=" => holds (x != y)
  | "<" => holds (x < y)
  | ">" => holds (x > y)
  | "<=" => holds (x ≤ y)
  | ">=" => holds (x ≥ y)
  | "<<" => some (x <<< y)
  | ">>" => some (x >>> y)
  | "+" => some (x + y)
  | "-" => some (x - y)
  | "*" => some (x * y)
  | "/" => if y = 0 then none else some (x / y)
  | "%" => if y = 0 then none else some (x % y)
  | _ => none

abbrev Step := Except Fault (Int64 × List Token)

mutual

/-- An operand with its unary operators. -/
def operand : (fuel : Nat) → List Token → Step
  | 0, _ => .error .tooDeep
  | fuel + 1, tokens =>
    match tokens with
    | .integer value _ :: rest => .ok (Int64.ofNat value, rest)
    | .mark "-" :: rest => (operand fuel rest).map fun (v, rest) => (-v, rest)
    | .mark "+" :: rest => operand fuel rest
    | .mark "!" :: rest => (operand fuel rest).map fun (v, rest) => (if v = 0 then 1 else 0, rest)
    | .mark "~" :: rest => (operand fuel rest).map fun (v, rest) => (~~~v, rest)
    | .mark "(" :: rest => do
      let (left, rest) ← operand fuel rest
      let (value, rest) ← climb fuel 0 left rest
      match rest with
      | .mark ")" :: rest => return (value, rest)
      | t :: _ => throw (.unexpected (some t.spelling))
      | [] => throw (.unexpected none)
    | t :: _ => .error (.unexpected (some t.spelling))
    | [] => .error (.unexpected none)

/-- Goes on with the operators that bind tighter than `level`. -/
def climb : (fuel : Nat) → (level : Nat) → (left : Int64) → List Token → Step
  | 0, _, _, _ => .error .tooDeep
  | fuel + 1, level, left, tokens =>
    match tokens with
    | .mark op :: rest =>
      match power? op with
      | none => .ok (left, tokens)
      | some power =>
        if power ≤ level then .ok (left, tokens)
        else do
          let (right, rest) ← operand fuel rest
          let (right, rest) ← climb fuel power right rest
          match apply op left right with
          | some value => climb fuel level value rest
          | none => throw (.badDirective "if")
    | _ => .ok (left, tokens)

end

/-- Answers every `defined`. -/
def answerDefined (defs : Definitions) : List Token → Except Fault (List Token)
  | [] => .ok []
  | .word "defined" :: .word name :: rest => do
    return .integer (if (defs.find? name).isSome then 1 else 0) false :: (← answerDefined defs rest)
  | .word "defined" :: .mark "(" :: .word name :: .mark ")" :: rest => do
    return .integer (if (defs.find? name).isSome then 1 else 0) false :: (← answerDefined defs rest)
  | .word "defined" :: _ => .error (.badDirective "defined")
  | t :: rest => do return t :: (← answerDefined defs rest)

/-- Whether a condition holds. -/
def holds (defs : Definitions) (tokens : List Token) : Except Fault Bool := do
  let tokens ← expand defs (← answerDefined defs tokens)
  let fuel := 2 * tokens.length + 2
  let (left, rest) ← operand fuel tokens
  match ← climb fuel 0 left rest with
  | (value, []) => return value != 0
  | (_, t :: _) => throw (.unexpected (some t.spelling))

end ShaderFilm.Glsl.Condition
