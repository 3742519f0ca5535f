import ShaderFilm.Glsl.Builtin
import ShaderFilm.Glsl.Fault
import ShaderFilm.Glsl.Tree

/-!
# What is declared

The state in which a program is examined: its structures, global variables, resources and functions,
and the local variables in scope.  For each function it is noted which resources its code reads and
which functions it calls.
-/

namespace ShaderFilm.Glsl

/-- A place that a resource is bound to. -/
structure Slot where
  group : Nat
  binding : Nat
  deriving DecidableEq, Repr

/-- What a resource is. -/
inductive ResourceKind where
  | uniform
  | storage
  | handle
  deriving DecidableEq, Repr

structure Resource where
  slot : Slot
  kind : ResourceKind
  deriving DecidableEq, Repr

/-- A variable that passes the border of the stage, one location at a time. -/
structure Varying where
  location : Nat
  ty : Ty
  deriving DecidableEq, Repr

/-- What a name stands for. -/
inductive Role where
  | automatic
  | constant (value : Option Int)
  | global
  | resource (index : Nat)
  deriving DecidableEq, Repr

structure Variable where
  ty : Ty
  writable : Bool
  role : Role
  deriving DecidableEq, Repr

/-- The resources that code reads and the functions that it calls. -/
structure Uses where
  reads : List Nat := []
  calls : List Nat := []
  deriving DecidableEq, Repr

structure Parameter where
  direction : Direction
  ty : Ty
  deriving DecidableEq, Repr

structure Function where
  name : String
  parameters : List Parameter
  result : Option Ty
  defined : Bool
  uses : Uses
  deriving Repr

/-- A way to call a name: a built-in function has no index. -/
structure Overload where
  parameters : List Parameter
  result : Option Ty
  index : Option Nat

structure Scope where
  structures : Array (List (String × Ty)) := #[]
  typeNames : List (String × Nat) := []
  globals : List (String × Variable) := []
  resources : Array Resource := #[]
  inputs : List Varying := []
  outputs : List Varying := []
  functions : Array Function := #[]
  /-- The local variables, innermost scope first. -/
  locals : List (List (String × Variable)) := []
  /-- What the code under examination has used so far. -/
  uses : Uses := {}

abbrev Check := StateT Scope (Except Fault)

namespace Check

def require (condition : Bool) (fault : Fault) : Check Unit :=
  if condition then pure () else throw fault

def ofOption {α : Type} (fault : Fault) : Option α → Check α
  | some a => pure a
  | none => throw fault

/-! ### Names -/

/-- The variables that the language itself provides to a fragment shader. -/
def provided? (name : String) : Option Variable :=
  match name with
  | "gl_FragCoord" => some ⟨.vector 4 .float, false, .global⟩
  | "gl_PointCoord" => some ⟨.vector 2 .float, false, .global⟩
  | "gl_FrontFacing" => some ⟨.bool, false, .global⟩
  | "gl_FragDepth" => some ⟨.float, true, .global⟩
  | _ => none

/-- The variable that a name stands for. -/
def lookUp (name : String) : Check Variable := do
  let s ← get
  let found := (s.locals.findSome? (·.lookup name)).orElse fun _ =>
    (s.globals.lookup name).orElse fun _ => provided? name
  ofOption (.undeclared name) found

/-- Notes that the code reads a variable. -/
def noteRead (v : Variable) : Check Unit :=
  match v.role with
  | .resource i =>
    modify fun s => { s with uses := { s.uses with reads := i :: s.uses.reads } }
  | _ => pure ()

def noteCall (index : Nat) : Check Unit :=
  modify fun s => { s with uses := { s.uses with calls := index :: s.uses.calls } }

/-- Runs a check in a scope of its own. -/
def inScope {α : Type} (check : Check α) : Check α := do
  modify fun s => { s with locals := [] :: s.locals }
  let a ← check
  modify fun s => { s with locals := s.locals.tail }
  return a

/-- Declares a local variable; a scope holds a name once. -/
def declareLocal (name : String) (v : Variable) : Check Unit := do
  match (← get).locals with
  | [] => throw (.redeclared name)
  | innermost :: outer =>
    require (innermost.lookup name).isNone (.redeclared name)
    modify fun s => { s with locals := ((name, v) :: innermost) :: outer }

def declareGlobal (name : String) (v : Variable) : Check Unit :=
  modify fun s => { s with globals := (name, v) :: s.globals }

/-- Runs a check with no local variable in sight. -/
def globally {α : Type} (check : Check α) : Check α := do
  let locals := (← get).locals
  modify fun s => { s with locals := [] }
  let a ← check
  modify fun s => { s with locals }
  return a

/-! ### Functions -/

/-- The ways to call a name: built-in functions first, those that the program defines anew replaced,
then the program's own. -/
def overloads (name : String) : Check (List Overload) := do
  let functions := (← get).functions
  let indexed := (List.range functions.size).zip functions.toList
  let own := indexed.filterMap fun (i, f) =>
    if f.name == name then some (⟨f.parameters, f.result, some i⟩ : Overload) else none
  let types (o : Overload) : List Ty := o.parameters.map (·.ty)
  let builtin := (Builtin.signatures name).map fun g =>
    (own.find? fun o => types o == g.parameters).getD
      ⟨g.parameters.map fun t => ⟨.input, t⟩, some g.result, none⟩
  let fresh := own.filter fun o => !builtin.any fun b => types b == types o
  return builtin ++ fresh

/-- How well an argument fits a parameter. -/
inductive Conversion where
  | exact
  | wholeToFloat
  | other
  deriving DecidableEq

/-- The conversion that an argument needs; none if there is none. -/
def conversion? (p : Parameter) (argument : Ty) : Option Conversion :=
  if p.ty == argument then some .exact
  else
    let (source, target) := match p.direction with
      | .output => (p.ty, argument)
      | _ => (argument, p.ty)
    if p.direction = .both then none
    else if source.fits target then
      if target.component? = some .float then some .wholeToFloat else some .other
    else none

/-- Picks the overload for arguments of the given types.  An overload that needs no conversion wins.
Otherwise the first fitting one stands, and every further fitting one makes the call ambiguous
unless it converts an argument that the first one takes as it is. -/
def resolve (name : String) (arguments : List Ty) : Check Overload := do
  let fitting := (← overloads name).filterMap fun o =>
    if o.parameters.length = arguments.length then
      ((o.parameters.zip arguments).mapM fun (p, a) => conversion? p a).map fun cs => (o, cs)
    else none
  match fitting.find? fun (_, cs) => cs.all (· = .exact) with
  | some (o, _) => return o
  | none =>
    match fitting with
    | [] => throw (.noFunction name)
    | (o, cs) :: others =>
      let worse (ds : List Conversion) : Bool :=
        (cs.zip ds).any fun (c, d) => c = .exact && d ≠ .exact
      require (others.all fun (_, ds) => worse ds) (.noFunction name)
      return o

end Check

end ShaderFilm.Glsl
