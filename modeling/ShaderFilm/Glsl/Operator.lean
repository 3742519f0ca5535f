import ShaderFilm.Glsl.Ty

/-!
# Operators and constructors on types

Which operand types an operator accepts and what it answers with, and which arguments make up a
value of a type.
-/

namespace ShaderFilm.Glsl

namespace Ty

/-- The two types with their components brought to the higher rank of the two. -/
def balance (l r : Ty) : Ty × Ty :=
  match l.component?, r.component? with
  | some a, some b => (l.promote b, r.promote a)
  | _, _ => (l, r)

def isNumeric (t : Ty) : Bool := t.component?.any Scalar.isNumeric

def isInteger (t : Ty) : Bool := t.component?.any Scalar.isInteger

def isBool (t : Ty) : Bool := t.component? == some .bool

def isMatrix : Ty → Bool
  | matrix _ _ => true
  | _ => false

/-- The type of a sum, and of every operator that works component by component on numbers. -/
def sum? (l r : Ty) : Option Ty :=
  if !l.isNumeric then none
  else if l == r then some l
  else
    match l, r with
    | vector n s, scalar t => if s = t then some (vector n s) else none
    | scalar s, vector n t => if s = t then some (vector n t) else none
    | matrix c k, scalar .float => some (matrix c k)
    | scalar .float, matrix c k => some (matrix c k)
    | _, _ => none

/-- The type of a product. -/
def product? (l r : Ty) : Option Ty :=
  match l, r with
  | matrix c k, matrix c' k' => if c = k' then some (matrix c' k) else none
  | matrix c k, vector n .float => if c = n then some (vector k .float) else none
  | vector n .float, matrix c k => if n = k then some (vector c .float) else none
  | _, _ => sum? l r

/-- The type of an operator on bits. -/
def bits? (l r : Ty) : Option Ty :=
  if l == r then (if l.isMatrix then none else some l)
  else
    match l, r with
    | vector n s, scalar t => if s = t then some (vector n s) else none
    | scalar s, vector n t => if s = t then some (vector n t) else none
    | _, _ => none

/-- The type of an order comparison, which answers for each component. -/
def order? (l r : Ty) : Option Ty :=
  if l == r && l.isNumeric && !l.isMatrix then some (l.withComponent .bool) else none

/-- The type of a binary operation. -/
def binary? (op : String) (l r : Ty) : Option Ty :=
  if op == "<<" || op == ">>" then
    match l.component?, (r.promote .uint).component? with
    | some s, some .uint =>
      if s.isInteger then
        match l, r with
        | scalar _, scalar _ => some l
        | scalar _, vector n _ => some (vector n s)
        | vector _ _, scalar _ => some l
        | vector n _, vector k _ => if n = k then some l else none
        | _, _ => none
      else none
    | _, _ => none
  else
    let (l, r) := balance l r
    match op with
    | "+" => sum? l r
    | "-" => sum? l r
    | "*" => product? l r
    | "/" => sum? l r
    | "%" => if l == r && !l.isMatrix then sum? l r else none
    | "&" => if l.isInteger || l.isBool then bits? l r else none
    | "|" => if l.isInteger || l.isBool then bits? l r else none
    | "^" => if l.isInteger then bits? l r else none
    | "==" => if l == r && l.component?.isSome then some bool else none
    | "!=" => if l == r && l.component?.isSome then some bool else none
    | "^^" => if l == r && l == bool then some bool else none
    | "&&" => if l == r && l == bool then some bool else none
    | "||" => if l == r && l == bool then some bool else none
    | _ => order? l r

/-- The type of a unary operation. -/
def unary? (op : String) (t : Ty) : Option Ty :=
  match op, t.component? with
  | "-", some .float => some t
  | "-", some .int => some t
  | "!", some .bool => some t
  | "~", some .int => some t
  | "~", some .uint => some t
  | _, _ => none

/-! ### Constructors -/

/-- How many components a value contributes to a vector; none if it is no scalar, vector or
matrix. -/
def componentCount? : Ty → Option Nat
  | scalar _ => some 1
  | vector n _ => some n
  | matrix c r => some (c * r)
  | _ => none

/-- Whether a single argument makes up a value of type `target`. -/
def ofOne? (target argument : Ty) : Option Ty :=
  match target.component?, argument with
  | some s, a =>
    -- Truth values become numbers in the argument's own shape.
    if a.isBool && s != .bool then some (a.withComponent s)
    else
      match target, a with
      | scalar _, _ => if a.component?.isSome then some target else none
      | vector _ _, scalar _ => some target
      | vector n _, vector k _ => if n ≤ k then some target else none
      | vector n _, matrix c r => if n ≤ c * r then some target else none
      | matrix _ _, scalar _ => some target
      | matrix _ _, matrix _ _ => some target
      | matrix _ r, vector n _ => if n = r then some target else none
      | _, _ => none
  | none, _ => none

/-- The components that arguments contribute until `size` are there. -/
def gathered? (size : Nat) : List Ty → Option Nat
  | [] => some 0
  | t :: rest => do
    let n ← t.componentCount?
    if size ≤ n then some n else return n + (← gathered? (size - n) rest)

/-- Whether several arguments, or none, make up a vector or a matrix. -/
def ofMany? (target : Ty) (arguments : List Ty) : Option Ty :=
  match target with
  | vector n _ => do
    let found ← gathered? n arguments
    if n ≤ found then some target else none
  | matrix c r => do
    if arguments.any isMatrix then none
    let counts ← arguments.mapM componentCount?
    if counts.foldl (· + ·) 0 = c * r then some target else none
  | _ => none

/-- The components that a swizzle picks; none if the field is no swizzle of a vector of that
size. -/
def swizzle? (size : Nat) (field : String) : Option (List Nat) :=
  let pick (letters : List Char) : Option (List Nat) :=
    field.toList.mapM fun c =>
      let i := letters.findIdx (· == c)
      if i < size ∧ i < letters.length then some i else none
  let found := (pick "xyzw".toList).orElse fun _ =>
    (pick "rgba".toList).orElse fun _ => pick "stpq".toList
  found.filter fun l => 1 ≤ l.length && l.length ≤ 4

end Ty

end ShaderFilm.Glsl
