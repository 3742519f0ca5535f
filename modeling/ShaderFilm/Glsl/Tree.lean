import ShaderFilm.Glsl.Ty

/-!
# Syntax trees

What a shader text says, before names and types are looked at.
-/

namespace ShaderFilm.Glsl

mutual

/-- An expression. -/
inductive Expr where
  /-- A literal; the value of a floating-point literal is not kept. -/
  | literal (s : Scalar) (value : Nat)
  | name (n : String)
  | call (function : String) (arguments : List Expr)
  | construct (type : TypeTree) (arguments : List Expr)
  | select (base : Expr) (field : String)
  | method (base : Expr) (name : String) (arguments : List Expr)
  | index (base position : Expr)
  | unary (op : String) (e : Expr)
  /-- An increment or decrement, before or after. -/
  | adjust (e : Expr)
  | binary (op : String) (left right : Expr)
  | conditional (condition accept reject : Expr)
  | assign (target value : Expr)
  /-- Expressions in a row, of which only the last one counts. -/
  | sequence (dropped : List Expr) (last : Expr)

/-- A type as it is written, with its array sizes; a size may be left open. -/
inductive TypeTree where
  | known (ty : Ty) (sizes : List (Option Expr))
  | named (name : String) (sizes : List (Option Expr))
  | definition (name : String) (members : List MemberTree) (sizes : List (Option Expr))

/-- A member of a structure or an interface block. -/
inductive MemberTree where
  | member (type : TypeTree) (name : String) (sizes : List (Option Expr))

end

instance : Inhabited Expr := ⟨.name ""⟩

/-- The value that a variable starts with. -/
inductive Initializer where
  | value (e : Expr)
  | list (items : List Initializer)

/-- Where a variable lives. -/
inductive Storage where
  | constant
  | input
  | output
  | uniform
  | shared
  | buffer
  deriving DecidableEq, Repr

/-- The qualifiers of a declaration. -/
structure Qualifiers where
  storage : Option Storage := none
  /-- Layout qualifiers with the values given to them. -/
  layout : List (String × Option Expr) := []
  invariant : Bool := false
  interpolation : Option String := none
  sampling : Bool := false
  memory : Bool := false

/-- A variable in a declaration. -/
structure Declarator where
  name : String
  sizes : List (Option Expr)
  initial : Option Initializer

/-- How an argument is passed. -/
inductive Direction where
  | input
  | constant
  | output
  | both
  deriving DecidableEq, Repr

/-- A parameter; one without a name cannot be used. -/
structure ParameterTree where
  direction : Direction
  type : TypeTree
  name : Option String

mutual

/-- A declaration. -/
inductive Declaration where
  | variables (qualifiers : Qualifiers) (type : TypeTree) (items : List Declarator)
  | block (qualifiers : Qualifiers) (name : String) (members : List MemberTree)
      (instanceName : Option (String × List (Option Expr)))
  | function (result : Option TypeTree) (name : String) (parameters : List ParameterTree)
      (body : Option (List Statement))
  /-- Qualifiers that apply to the program. -/
  | setting (qualifiers : Qualifiers)
  | invariant (qualifiers : Qualifiers) (name : String)
  | precision (type : TypeTree)

/-- A statement. -/
inductive Statement where
  | declare (d : Declaration)
  | express (e : Expr)
  | choose (condition : Expr) (accept : Statement) (reject : Option Statement)
  | count (start : Option Statement)
      (condition : Option (Sum Expr (TypeTree × String × Initializer))) (step : Option Expr)
      (body : Statement)
  | loop (condition : Expr) (body : Statement)
  | loopAfter (body : Statement) (condition : Expr)
  | switch (selector : Expr) (cases : List (Option Expr × List Statement))
  | block (body : List Statement)
  | return (value : Option Expr)
  | discard
  | break
  | continue
  | empty

end

instance : Inhabited Statement := ⟨.empty⟩

end ShaderFilm.Glsl
