import ShaderFilm.Glsl.Operator
import ShaderFilm.Glsl.Scope

/-!
# Types of expressions

Expressions get their types, names and calls are resolved, and everything that is read is noted.
A whole number whose value is known is carried along, for array sizes are made from such.
-/

namespace ShaderFilm.Glsl

/-- The type of an expression; whether its value is known before the program runs; and that value
for a whole number. -/
structure Typed where
  ty : Ty
  constant : Bool := false
  value : Option Int := none

namespace Check

/-- The value of an operation on 32-bit whole numbers that are both known. -/
def known (op : String) (ty : Ty) (l r : Int) : Check (Option Int) := do
  let (low, high) : Int × Int :=
    if ty == Ty.uint then (0, 0x100000000) else (-0x80000000, 0x80000000)
  let within (v : Int) : Check (Option Int) := do
    require (low ≤ v && v < high) .notConstant
    return some v
  match op with
  | "+" => within (l + r)
  | "-" => within (l - r)
  | "*" => within (l * r)
  | "/" => do require (r != 0) .notConstant; within (l.tdiv r)
  | "%" => do require (r != 0) .notConstant; within (l.tmod r)
  | _ => return none

/-- What an initializer list has at a position. -/
def itemType (ty : Ty) (position : Nat) : Check Ty := do
  match ty with
  | .vector _ s => return .scalar s
  | .matrix _ rows => return .vector rows .float
  | .array element _ => return element
  | .structure id =>
    let members := (← get).structures.getD id []
    ofOption .mismatch ((members[position]?).map (·.2))
  | _ => throw .mismatch

/-- How many items a value of a type is made of; none if any number will do. -/
def itemCount (ty : Ty) : Check (Option Nat) := do
  match ty with
  | .vector n _ => return some n
  | .matrix columns _ => return some columns
  | .array _ size => return size
  | .structure id => return some ((← get).structures.getD id []).length
  | _ => throw .mismatch

/-- A value made of arguments. -/
def construct (target : Ty) (arguments : List Ty) : Check Ty := do
  match target, arguments with
  | .structure _, _ => whole
  | .array _ _, _ => whole
  | .handle _, _ => throw .mismatch
  | _, [a] => ofOption .mismatch (Ty.ofOne? target a)
  | _, _ => ofOption .mismatch (Ty.ofMany? target arguments)
where
  /-- Every item is given, each with its own type. -/
  whole : Check Ty := do
    let count ← itemCount target
    require (count.all (· == arguments.length) && !arguments.isEmpty) .mismatch
    let _ ← ((List.range arguments.length).zip arguments).mapM fun (i, a) => do
      require (a.fits (← itemType target i)) .mismatch
    match target with
    | .array element none => return .array element (some arguments.length)
    | _ => return target

/-- The type of a field; in something that is written, a swizzle names each component once. -/
def select (base : Ty) (field : String) (written : Bool) : Check Ty := do
  match base with
  | .structure id =>
    ofOption .mismatch (((← get).structures.getD id []).lookup field)
  | .vector n s =>
    let picked ← ofOption .mismatch (Ty.swizzle? n field)
    require (!written || picked.eraseDups.length == picked.length) .notWritable
    return if picked.length = 1 then .scalar s else .vector picked.length s
  | _ => throw .mismatch

/-- The type of what stands at a position. -/
def element (base : Ty) (position : Typed) : Check Ty := do
  require (position.ty == Ty.int || position.ty == Ty.uint) .mismatch
  let (item, count) ← match base with
    | .vector n s => pure (Ty.scalar s, some n)
    | .matrix c r => pure (Ty.vector r .float, some c)
    | .array t n => pure (t, n)
    | _ => throw .mismatch
  match position.value, count with
  | some i, some n => require (0 ≤ i && i < n) .mismatch
  | _, _ => pure ()
  return item

/-- Whether a type is made of matrices with two rows. -/
def twoRows : Ty → Bool
  | .matrix _ 2 => true
  | .array t _ => twoRows t
  | _ => false

mutual

/-- The type of an expression whose value is read; none for a call without a value. -/
def infer : (fuel : Nat) → Expr → Check (Option Typed)
  | 0, _ => throw .tooDeep
  | fuel + 1, e => do
    match e with
    | .literal s value =>
      let v : Int := if s == .int && 0x80000000 ≤ value then (value : Int) - 0x100000000 else value
      return some ⟨.scalar s, true, if s.isInteger then some v else none⟩
    | .name n =>
      let v ← lookUp n
      noteRead v
      match v.role with
      | .constant value => return some ⟨v.ty, true, value⟩
      | _ => return some { ty := v.ty }
    | .call f arguments =>
      let typed ← arguments.mapM (value fuel)
      let o ← resolve f (typed.map (·.ty))
      for (p, a) in o.parameters.zip arguments do
        if p.direction = .output || p.direction = .both then
          let _ ← place fuel a
      match o.index with
      | some i => noteCall i
      | none => pure ()
      let constant := o.index.isNone && typed.all (·.constant) &&
        Builtin.isConstant f arguments.length
      return o.result.map fun ty => { ty, constant }
    | .construct type arguments =>
      let ty ← typeOf fuel type
      let typed ← arguments.mapM (value fuel)
      let result ← construct ty (typed.map (·.ty))
      let v := match typed with
        | [a] => if result == Ty.int || result == Ty.uint then a.value else none
        | _ => none
      return some ⟨result, typed.all (·.constant), v⟩
    | .select base field =>
      let b ← value fuel base
      return some { ty := ← select b.ty field false, constant := b.constant }
    | .method base name arguments =>
      require (name == "length" && arguments.isEmpty) .mismatch
      match (← value fuel base).ty with
      | .array _ size =>
        return some ⟨.int, size.isSome, size.map Int.ofNat⟩
      | _ => throw .mismatch
    | .index base position =>
      let b ← value fuel base
      let p ← value fuel position
      return some { ty := ← element b.ty p, constant := b.constant && p.constant }
    | .unary op e =>
      let t ← value fuel e
      let ty ← ofOption .mismatch (Ty.unary? op t.ty)
      let v := if op == "-" then t.value.map (-·) else none
      return some ⟨ty, t.constant, v⟩
    | .adjust e =>
      let ty ← place fuel e
      require (ty.component?.any Scalar.isNumeric) .mismatch
      return some { ty }
    | .binary op l r =>
      let l ← value fuel l
      let r ← value fuel r
      let ty ← ofOption .mismatch (Ty.binary? op l.ty r.ty)
      let v ← match l.value, r.value with
        | some x, some y =>
          if ty == Ty.int || ty == Ty.uint then known op ty x y else pure none
        | _, _ => pure none
      return some ⟨ty, l.constant && r.constant, v⟩
    | .conditional c a b =>
      let c ← value fuel c
      require (c.ty == Ty.bool) .mismatch
      let a ← value fuel a
      let b ← value fuel b
      let (x, y) := Ty.balance a.ty b.ty
      require (x == y) .mismatch
      return some { ty := x }
    | .assign target e =>
      let t ← place fuel target
      let v ← value fuel e
      require (v.ty.fits t) .mismatch
      return some { ty := t }
    | .sequence dropped last =>
      -- The expressions that do not count have to name declared variables, no more.
      let before ← get
      for e in dropped do
        match (infer fuel e).run before with
        | .error (.undeclared n) => throw (.undeclared n)
        | _ => pure ()
      infer fuel last

/-- The type of an expression that has a value. -/
def value : (fuel : Nat) → Expr → Check Typed
  | 0, _ => throw .tooDeep
  | fuel + 1, e => do ofOption .badType (← infer fuel e)

/-- The type of something that is written. -/
def place : (fuel : Nat) → Expr → Check Ty
  | 0, _ => throw .tooDeep
  | fuel + 1, e => do
    match e with
    | .name n =>
      let v ← lookUp n
      require v.writable .notWritable
      return v.ty
    | .select base field => select (← place fuel base) field true
    | .index base position =>
      let b ← place fuel base
      let p ← value fuel position
      element b p
    | _ => throw .notWritable

/-- The type that a written type denotes; definitions inside are entered. -/
def typeOf : (fuel : Nat) → TypeTree → Check Ty
  | 0, _ => throw .tooDeep
  | fuel + 1, tree => do
    match tree with
    | .known ty dimensions => sized fuel ty dimensions
    | .named n dimensions =>
      let id ← ofOption (.undeclared n) ((← get).typeNames.lookup n)
      sized fuel (.structure id) dimensions
    | .definition n found dimensions =>
      let id ← enterStructure fuel found
      modify fun s => { s with typeNames := (n, id) :: s.typeNames }
      sized fuel (.structure id) dimensions

/-- The type of arrays with the given sizes, the outermost first. -/
def sized : (fuel : Nat) → Ty → List (Option Expr) → Check Ty
  | 0, _, _ => throw .tooDeep
  | _ + 1, ty, [] => return ty
  | fuel + 1, ty, dimension :: rest => do
    let size ← match dimension with
      | none => pure none
      | some e => do
        let t ← globally (value fuel e)
        match t.constant, t.value with
        | true, some v => do
          require (0 < v) .badType
          pure (some v.toNat)
        | _, _ => throw .notConstant
    return .array (← sized fuel ty rest) size

/-- Enters a structure and answers with its number.  Matrices with two rows cannot be laid out. -/
def enterStructure : (fuel : Nat) → List MemberTree → Check Nat
  | 0, _ => throw .tooDeep
  | fuel + 1, found => do
    let members ← found.mapM fun
      | .member type n dimensions => do
        let ty ← sized fuel (← typeOf fuel type) dimensions
        require (!twoRows ty) .badType
        return (n, ty)
    let id := (← get).structures.size
    modify fun s => { s with structures := s.structures.push members }
    return id

end

/-- The type of a variable that starts with the given value, and whether the value is constant. -/
def initial (fuel : Nat) (ty : Ty) : Initializer → Check Typed
  | .value e => do
    let v ← value fuel e
    match ty, v.ty with
    | .array t none, .array u n => do
      require (t == u) .mismatch
      return { v with ty := .array t n }
    | _, _ => do
      require (v.ty.fits ty) .mismatch
      return { v with ty }
  | .list items => do
    let typed ← items.attach.zipIdx.mapM fun (⟨i, _⟩, position) => do
      initial fuel (← itemType ty position) i
    let count ← itemCount ty
    require (count.all (· == items.length)) .mismatch
    let ty := match ty with
      | .array t none => .array t (some items.length)
      | _ => ty
    return { ty, constant := typed.all (·.constant) }

end Check

end ShaderFilm.Glsl
