import ShaderFilm.Glsl.Active
import ShaderFilm.Glsl.Reader
import ShaderFilm.Glsl.Typing

/-!
# Whole programs

Declarations and statements are checked in the order of the text.  A program that passes has an
interface: the resources it is bound to, which of them its entry point needs, and the variables that
pass the border of the stage.
-/

namespace ShaderFilm.Glsl

/-- Where a statement stands. -/
structure Surroundings where
  /-- What the function around it answers with. -/
  result : Option Ty
  inLoop : Bool
  inSwitch : Bool

namespace Check

/-! ### Control flow -/

/-- Whether a statement ends the block it stands in. -/
def ends : (fuel : Nat) → Statement → Bool
  | 0, _ => false
  | fuel + 1, s =>
    match s with
    | .return _ => true
    | .discard => true
    | .break => true
    | .continue => true
    | .block body => body.any (ends fuel)
    | _ => false

/-- The statements up to the first one that ends the block. -/
def live (fuel : Nat) : List Statement → List Statement
  | [] => []
  | s :: rest => if ends fuel s then [s] else s :: live fuel rest

/-- Whether control can run off the end of a block. -/
def runsOff : (fuel : Nat) → List Statement → Bool
  | 0, _ => true
  | fuel + 1, body =>
    let nonempty : Statement → Bool
      | .empty => false
      | _ => true
    match ((live fuel body).filter nonempty).getLast? with
    | none => true
    | some s =>
      match s with
      | .return _ => false
      | .discard => false
      | .break => false
      | .continue => false
      | .block inner => runsOff fuel inner
      | .choose _ a (some r) => runsOff fuel [a] || runsOff fuel [r]
      | .switch _ cases =>
        let leaves (body : List Statement) : Bool :=
          match (live fuel body).getLast? with
          | some .break => true
          | _ => false
        !cases.any (·.1.isNone) ||
          cases.any (fun c => leaves c.2) ||
          (cases.getLast?).any fun c => runsOff fuel c.2
      | _ => true

/-! ### Interface variables -/

/-- The values of which a variable consists, each of which takes a location. -/
def portTypes : (fuel : Nat) → Ty → Check (List Ty)
  | 0, _ => throw .tooDeep
  | fuel + 1, ty => do
    match ty with
    | .array t (some n) => return (List.replicate n (← portTypes fuel t)).flatten
    | .structure id =>
      return (← ((← get).structures.getD id []).mapM fun m => portTypes fuel m.2).flatten
    | .scalar s => do require s.isNumeric .badType; return [ty]
    | .vector _ s => do require s.isNumeric .badType; return [ty]
    | _ => throw .badType

/-- Whether a value can be laid out in a buffer. -/
def shareable : (fuel : Nat) → Ty → Check Bool
  | 0, _ => throw .tooDeep
  | fuel + 1, ty => do
    match ty with
    | .array t _ => shareable fuel t
    | .structure id => ((← get).structures.getD id []).allM fun m => shareable fuel m.2
    | .handle _ => return false
    | _ => return !ty.isBool

/-- The number given to a layout qualifier. -/
def layoutNumber (fuel : Nat) (q : Qualifiers) (key : String) : Check (Option Nat) := do
  match q.layout.lookup key with
  | none => return none
  | some none => throw .misplacedQualifier
  | some (some e) =>
    let t ← globally (value fuel e)
    match t.constant, t.value with
    | true, some v => do
      require (0 ≤ v) .notConstant
      return some v.toNat
    | _, _ => throw .notConstant

/-- Refuses every layout qualifier that is not in the list, and all other qualifiers that only
interface variables and buffers have. -/
def onlyLayout (q : Qualifiers) (keys : List String) : Check Unit := do
  require (q.layout.all fun (k, _) => keys.contains k) .misplacedQualifier

def plain (q : Qualifiers) : Check Unit := do
  onlyLayout q []
  require (!q.invariant && q.interpolation.isNone && !q.sampling && !q.memory) .misplacedQualifier

/-- Enters an input or output. -/
def enterPort (fuel : Nat) (q : Qualifiers) (ty : Ty) (isInput : Bool) : Check Unit := do
  onlyLayout q ["location", "std140", "std430"]
  require (!q.memory) .misplacedQualifier
  let first := (← layoutNumber fuel q "location").getD 0
  let tys ← portTypes fuel ty
  if q.interpolation.any (· != "flat") && isInput then
    require (tys.all (·.component? == some .float)) .misplacedQualifier
  let varyings := ((List.range tys.length).zip tys).map fun (i, t) => (⟨first + i, t⟩ : Varying)
  if isInput then modify fun s => { s with inputs := s.inputs ++ varyings }
  else modify fun s => { s with outputs := s.outputs ++ varyings }

/-- Enters a resource and answers with its number. -/
def enterResource (fuel : Nat) (q : Qualifiers) (kind : ResourceKind) : Check Nat := do
  onlyLayout q ["binding", "set", "std140", "std430"]
  require (!q.invariant && q.interpolation.isNone && !q.sampling) .misplacedQualifier
  let binding ← ofOption .misplacedQualifier (← layoutNumber fuel q "binding")
  let group := (← layoutNumber fuel q "set").getD 0
  let index := (← get).resources.size
  modify fun s => { s with resources := s.resources.push ⟨⟨group, binding⟩, kind⟩ }
  return index

/-! ### Declarations -/

/-- A global variable. -/
def globalVariable (fuel : Nat) (q : Qualifiers) (base : Ty) (d : Declarator) : Check Unit := do
  let ty ← sized fuel base d.sizes
  let start ← match d.initial with
    | none => pure none
    | some i => some <$> initial fuel ty i
  let ty := (start.map (·.ty)).getD ty
  let isHandle := match ty with
    | .handle _ => true
    | _ => false
  match q.storage with
  | none => do
    plain q
    require (!isHandle) .badType
    declareGlobal d.name ⟨ty, true, .global⟩
  | some .shared => do
    plain q
    declareGlobal d.name ⟨ty, true, .global⟩
  | some .constant => do
    plain q
    match start with
    | some t => do
      require t.constant .notConstant
      declareGlobal d.name ⟨ty, false, .constant t.value⟩
    | none => throw .notConstant
  | some .input => do
    enterPort fuel q ty true
    declareGlobal d.name ⟨ty, false, .global⟩
  | some .output => do
    enterPort fuel q ty false
    declareGlobal d.name ⟨ty, true, .global⟩
  | some .uniform => do
    require (isHandle || (← shareable fuel ty)) .badType
    require (isHandle || !q.memory) .misplacedQualifier
    require (q.layout.all fun (k, _) => k != "std140" && k != "std430") .misplacedQualifier
    let i ← enterResource fuel q (if isHandle then .handle else .uniform)
    declareGlobal d.name ⟨ty, false, .resource i⟩
  | some .buffer => do
    require (← shareable fuel ty) .badType
    let i ← enterResource fuel q .storage
    declareGlobal d.name ⟨ty, !q.memory, .resource i⟩

/-- A local variable. -/
def localVariable (fuel : Nat) (q : Qualifiers) (base : Ty) (d : Declarator) : Check Unit := do
  require (q.storage.isNone || q.storage == some .constant) .misplacedQualifier
  plain q
  let ty ← sized fuel base d.sizes
  let ty ← match d.initial with
    | none => pure ty
    | some i => do pure (← initial fuel ty i).ty
  match ty with
  | .handle _ => throw .badType
  | .array _ none => throw .badType
  | _ => declareLocal d.name ⟨ty, q.storage.isNone, .automatic⟩

/-- An interface block, whose members are visible as if they were variables themselves. -/
def interfaceBlock (fuel : Nat) (q : Qualifiers) (found : List MemberTree)
    (instanceName : Option (String × List (Option Expr))) : Check Unit := do
  let id ← enterStructure fuel found
  let ty ← match instanceName with
    | some (_, dimensions) => sized fuel (.structure id) dimensions
    | none => pure (.structure id)
  let (writable, role) ← match q.storage with
    | some .input => do enterPort fuel q ty true; pure (false, Role.global)
    | some .output => do enterPort fuel q ty false; pure (true, Role.global)
    | some .uniform => do
      require (← shareable fuel ty) .badType
      require (!q.memory) .misplacedQualifier
      pure (false, Role.resource (← enterResource fuel q .uniform))
    | some .buffer => do
      require (← shareable fuel ty) .badType
      pure (!q.memory, Role.resource (← enterResource fuel q .storage))
    | _ => throw .misplacedQualifier
  match instanceName with
  | some (n, _) => declareGlobal n ⟨ty, writable, role⟩
  | none => pure ()
  for (n, t) in (← get).structures.getD id [] do
    declareGlobal n ⟨t, writable, role⟩

/-- Enters the parameters of a function as its local variables. -/
def parameterScope (fuel : Nat) (ps : List ParameterTree) :
    Check (List Parameter × List (String × Variable)) := do
  let entered ← ps.mapM fun p => do
    let ty ← typeOf fuel p.type
    let v : Variable := ⟨ty, p.direction != .constant, .automatic⟩
    return (({ direction := p.direction, ty } : Parameter), p.name.map fun n => (n, v))
  return (entered.map (·.1), (entered.filterMap (·.2)).reverse)

mutual

/-- Checks a declaration. -/
def declaration : (fuel : Nat) → (external : Bool) → Declaration → Check Unit
  | 0, _, _ => throw .tooDeep
  | fuel + 1, external, d => do
    match d with
    | .variables q type items =>
      let base ← typeOf fuel type
      for item in items do
        if external then globalVariable fuel q base item else localVariable fuel q base item
    | .block q _ found instanceName =>
      require external .misplacedQualifier
      interfaceBlock fuel q found instanceName
    | .function result name ps body =>
      let result ← match result with
        | none => pure none
        | some t => some <$> typeOf fuel t
      let (parameters, names) ← parameterScope fuel ps
      let index := (← get).functions.findIdx fun f =>
        f.name == name && f.parameters.map (·.ty) == parameters.map (·.ty)
      let known := (← get).functions[index]?
      match body with
      | none =>
        require known.isNone (.redeclared name)
        let f : Function := ⟨name, parameters, result, false, {}⟩
        modify fun s => { s with functions := s.functions.push f }
      | some body =>
        require (known.all (!·.defined)) (.redeclared name)
        let outside ← get
        modify fun s => { s with locals := [names], uses := {} }
        let _ ← inScope (statements fuel ⟨result, false, false⟩ body)
        require (result.isNone || !runsOff fuel body) .mismatch
        let uses := (← get).uses
        modify fun s => { s with locals := outside.locals, uses := outside.uses }
        let f : Function := ⟨name, parameters, result, true, uses⟩
        -- A function may call only functions that were declared before it.
        match known with
        | some _ => do
          require (uses.calls.all (· < index)) (.undeclared name)
          modify fun s => { s with functions := s.functions.setIfInBounds index f }
        | none => modify fun s => { s with functions := s.functions.push f }
    | .setting q =>
      onlyLayout q ["local_size_x", "local_size_y", "local_size_z", "early_fragment_tests"]
      require (!q.invariant && q.interpolation.isNone && !q.sampling && !q.memory)
        .misplacedQualifier
    | .invariant _ name => do let _ ← lookUp name
    | .precision type =>
      let ty ← typeOf fuel type
      require (ty == Ty.float || ty == Ty.int) .badType

/-- Checks statements; calls behind the end of their block are never made. -/
def statements : (fuel : Nat) → Surroundings → List Statement → Check Unit
  | 0, _, _ => throw .tooDeep
  | _ + 1, _, [] => pure ()
  | fuel + 1, around, s :: rest => do
    statement fuel around s
    if ends fuel s then
      let calls := (← get).uses.calls
      statements fuel around rest
      modify fun s => { s with uses := { s.uses with calls } }
    else statements fuel around rest

/-- Checks a statement. -/
def statement : (fuel : Nat) → Surroundings → Statement → Check Unit
  | 0, _, _ => throw .tooDeep
  | fuel + 1, around, s => do
    let condition (e : Expr) : Check Unit := do
      require ((← value fuel e).ty == Ty.bool) .mismatch
    let looping := { around with inLoop := true }
    match s with
    | .declare d => declaration fuel false d
    | .express e => do let _ ← infer fuel e
    | .choose c accept reject =>
      condition c
      statement fuel around accept
      match reject with
      | some r => statement fuel around r
      | none => pure ()
    | .count start c step body => inScope do
      match start with
      | some s => statement fuel around s
      | none => pure ()
      match c with
      | some (.inl e) => condition e
      | some (.inr (type, n, i)) => do
        let t ← initial fuel (← typeOf fuel type) i
        require (t.ty == Ty.bool) .mismatch
        declareLocal n ⟨t.ty, true, .automatic⟩
      | none => pure ()
      match step with
      | some e => do let _ ← infer fuel e
      | none => pure ()
      statement fuel looping body
    | .loop c body => do
      condition c
      statement fuel looping body
    | .loopAfter body c => do
      statement fuel looping body
      condition c
    | .switch selector cases => inScope do
      let t ← value fuel selector
      require (t.ty == Ty.int || t.ty == Ty.uint) .mismatch
      let values ← cases.mapM fun (v, _) => do
        match v with
        | none => return none
        | some e =>
          let v ← globally (value fuel e)
          require (v.constant && v.value.isSome) .notConstant
          return v.value
      require (values.eraseDups.length == values.length) .mismatch
      for (_, body) in cases do
        statements fuel { around with inSwitch := true } body
      require ((cases.getLast?).all fun c => !c.2.isEmpty) .mismatch
    | .block body => inScope (statements fuel around body)
    | .return v =>
      match v, around.result with
      | none, none => pure ()
      | some e, some ty => do require ((← value fuel e).ty == ty) .mismatch
      | _, _ => throw .mismatch
    | .discard => pure ()
    | .break => require (around.inLoop || around.inSwitch) .strayJump
    | .continue => require around.inLoop .strayJump
    | .empty => pure ()

end

end Check

/-! ### The interface of a program -/

/-- What a program needs from outside, and what it passes on. -/
structure Interface where
  /-- The resources, each with whether the entry point needs it. -/
  resources : List (Resource × Bool)
  inputs : List Varying
  outputs : List Varying
  deriving Repr

/-- For each function the resources that it and the functions it calls read; a function calls only
functions before it. -/
def readsOfFunctions (functions : List Function) : List (List Nat) :=
  functions.foldl (fun done f =>
    done ++ [f.uses.reads ++ f.uses.calls.flatMap fun c => done.getD c []]) []

/-- The interface of a program that is declared in full. -/
def Scope.interface (s : Scope) : Except Fault Interface := do
  let functions := s.functions.toList
  let entry := functions.findIdx fun f =>
    f.name == "main" && f.parameters.isEmpty && f.defined
  match functions[entry]? with
  | none => throw .noEntry
  | some main => if main.result.isSome then throw .noEntry
  let all := readsOfFunctions functions
  let needed := all.getD entry [] ++ s.uses.reads ++ s.uses.calls.flatMap fun c => all.getD c []
  let resources := s.resources.toList
  let marked := ((List.range resources.length).zip resources).map fun (i, r) =>
    (r, needed.contains i)
  let slots := (marked.filter (·.2)).map (·.1.slot)
  if !slots.Nodup then throw .collision
  if !(s.inputs.map (·.location)).Nodup then throw .collision
  if !(s.outputs.map (·.location)).Nodup then throw .collision
  return ⟨marked, s.inputs, s.outputs⟩

/-- Examines the text of a fragment shader. -/
def Interface.ofText (text : List Char) : Except Fault Interface := do
  let tokens ← activeTokens text
  let declarations ← Declaration.ofTokens tokens
  let fuel := 16 * tokens.length + 16
  let (_, scope) ← (declarations.forM (Check.declaration fuel true)).run {}
  scope.interface

end ShaderFilm.Glsl
