import ShaderFilm.Glsl.Token
import ShaderFilm.Glsl.Tree

/-!
# Reading syntax trees

A recursive-descent reader.  It remembers the names of the structures defined so far, for a name
followed by another one is a declaration only if the first names a type.  The depth of the recursion
is bounded by the number of tokens.
-/

namespace ShaderFilm.Glsl

/-- What is left to read, and the structure names known. -/
structure Input where
  tokens : List Token
  types : List String

abbrev Read := StateT Input (Except Fault)

namespace Read

/-! ### Single tokens -/

/-- The next token, if there is one. -/
def next? : Read (Option Token) := return (← get).tokens.head?

/-- The next token. -/
def next : Read Token := do
  match ← next? with
  | some t => return t
  | none => throw (.unexpected none)

def fault {α : Type} : Read α := do throw (.unexpected ((← next?).map (·.spelling)))

/-- Takes the next token. -/
def take : Read Token := do
  let t ← next
  modify fun i => { i with tokens := i.tokens.tail }
  return t

/-- Whether the next token is the mark `m`. -/
def at? (m : String) : Read Bool := return (← next?) == some (.mark m)

/-- Takes the mark `m` if it comes next. -/
def takeIf (m : String) : Read Bool := do
  let found ← at? m
  if found then modify fun i => { i with tokens := i.tokens.tail }
  return found

/-- Takes the mark `m`, which has to come next. -/
def expect (m : String) : Read Unit := do
  if !(← takeIf m) then fault

/-- Takes the word `w` if it comes next. -/
def takeWord (w : String) : Read Bool := do
  let found := (← next?) == some (.word w)
  if found then modify fun i => { i with tokens := i.tokens.tail }
  return found

/-- The words that qualify a declaration. -/
def qualifierWords : List String :=
  ["invariant", "flat", "noperspective", "smooth", "centroid", "sample", "highp", "mediump", "lowp",
   "const", "in", "out", "uniform", "shared", "buffer", "restrict", "readonly", "writeonly",
   "layout"]

/-- The words that are no names. -/
def reserved : List String :=
  qualifierWords ++ ["inout", "precision", "true", "false", "continue", "break", "return",
    "discard", "if", "else", "switch", "case", "default", "while", "do", "for", "void", "struct"]

/-- Whether a word can be a name. -/
def isName (w : String) : Bool := !reserved.contains w && (Ty.ofWord? w).isNone

/-- Takes a name. -/
def name : Read String := do
  match ← next with
  | .word w => if isName w then do let _ ← take; return w else fault
  | _ => fault

/-- Whether a type comes next. -/
def atType : Read Bool := do
  match ← next? with
  | some (.word w) =>
    return w == "void" || w == "struct" || (Ty.ofWord? w).isSome || (← get).types.contains w
  | _ => return false

/-- Whether a qualifier comes next. -/
def atQualifier : Read Bool := do
  match ← next? with
  | some (.word w) => return qualifierWords.contains w
  | _ => return false

/-- How tightly a binary operator binds. -/
def power? (op : String) : Option Nat :=
  match op with
  | "||" => some 1
  | "^^" => some 2
  | "&&" => some 3
  | "|" => some 4
  | "^" => some 5
  | "&" => some 6
  | "==" => some 7
  | "!=" => some 7
  | "<" => some 8
  | ">" => some 8
  | "<=" => some 8
  | ">=" => some 8
  | "<<" => some 9
  | ">>" => some 9
  | "+" => some 10
  | "-" => some 10
  | "*" => some 11
  | "/" => some 11
  | "%" => some 11
  | _ => none

/-- The operator inside an assignment such as `+=`. -/
def assignedOperator? (m : String) : Option String :=
  match m with
  | "+=" => some "+"
  | "-=" => some "-"
  | "*=" => some "*"
  | "/=" => some "/"
  | "%=" => some "%"
  | "&=" => some "&"
  | "|=" => some "|"
  | "^=" => some "^"
  | "<<=" => some "<<"
  | ">>=" => some ">>"
  | _ => none

/-! ### Expressions and types -/

mutual

/-- An expression, with commas. -/
def expression : (fuel : Nat) → Read Expr
  | 0 => throw .tooDeep
  | fuel + 1 => do sequence fuel [] (← assignment fuel)

/-- What follows a comma; `dropped` holds the expressions before `last`, reversed. -/
def sequence : (fuel : Nat) → (dropped : List Expr) → (last : Expr) → Read Expr
  | 0, _, _ => throw .tooDeep
  | fuel + 1, dropped, last => do
    let _ ← next
    if ← takeIf "," then sequence fuel (last :: dropped) (← assignment fuel)
    else if dropped.isEmpty then return last
    else return .sequence dropped.reverse last

/-- An expression without commas. -/
def assignment : (fuel : Nat) → Read Expr
  | 0 => throw .tooDeep
  | fuel + 1 => do
    let left ← unary fuel
    match ← next with
    | .mark "=" => do
      expect "="
      return .assign left (← assignment fuel)
    | .mark m =>
      match assignedOperator? m with
      | some op => do
        let _ ← take
        return .assign left (.binary op left (← assignment fuel))
      | none => conditional fuel (← binary fuel 0 left)
    | _ => conditional fuel (← binary fuel 0 left)

/-- A choice, if a question mark follows the condition. -/
def conditional : (fuel : Nat) → (condition : Expr) → Read Expr
  | 0, _ => throw .tooDeep
  | fuel + 1, condition => do
    if ← takeIf "?" then
      let accept ← expression fuel
      expect ":"
      return .conditional condition accept (← assignment fuel)
    else return condition

/-- Goes on with the operators that bind tighter than `level`. -/
def binary : (fuel : Nat) → (level : Nat) → (left : Expr) → Read Expr
  | 0, _, _ => throw .tooDeep
  | fuel + 1, level, left => do
    match ← next with
    | .mark op =>
      match power? op with
      | none => return left
      | some power =>
        if power ≤ level then return left
        else do
          let _ ← take
          let right ← binary fuel power (← unary fuel)
          binary fuel level (.binary op left right)
    | _ => return left

/-- An operand with its unary operators. -/
def unary : (fuel : Nat) → Read Expr
  | 0 => throw .tooDeep
  | fuel + 1 => do
    match ← next with
    | .mark "+" => do let _ ← take; unary fuel
    | .mark "-" => do let _ ← take; return .unary "-" (← unary fuel)
    | .mark "!" => do let _ ← take; return .unary "!" (← unary fuel)
    | .mark "~" => do let _ ← take; return .unary "~" (← unary fuel)
    | .mark "++" => do let _ ← take; return .adjust (← unary fuel)
    | .mark "--" => do let _ ← take; return .adjust (← unary fuel)
    | _ => postfixes fuel (← primary fuel)

/-- A literal, a name, a call, or an expression in parentheses. -/
def primary : (fuel : Nat) → Read Expr
  | 0 => throw .tooDeep
  | fuel + 1 => do
    if ← atType then
      let type ← typeTree fuel
      expect "("
      return .construct type (← arguments fuel)
    match ← next with
    | .word "true" => do let _ ← take; return .literal .bool 1
    | .word "false" => do let _ ← take; return .literal .bool 0
    | .word _ => do
      let n ← name
      if ← takeIf "(" then return .call n (← arguments fuel) else return .name n
    | .integer value unsigned => do
      let _ ← take
      return .literal (if unsigned then .uint else .int) value
    | .real double => do
      if double then throw .badType
      let _ ← take
      return .literal .float 0
    | .mark "(" => do
      let _ ← take
      let e ← expression fuel
      expect ")"
      return e
    | _ => fault

/-- What follows an operand: fields, methods, positions, steps. -/
def postfixes : (fuel : Nat) → (base : Expr) → Read Expr
  | 0, _ => throw .tooDeep
  | fuel + 1, base => do
    match ← next with
    | .mark "[" => do
      let _ ← take
      let position ← expression fuel
      expect "]"
      postfixes fuel (.index base position)
    | .mark "." => do
      let _ ← take
      let field ← name
      if ← takeIf "(" then postfixes fuel (.method base field (← arguments fuel))
      else postfixes fuel (.select base field)
    | .mark "++" => do let _ ← take; postfixes fuel (.adjust base)
    | .mark "--" => do let _ ← take; postfixes fuel (.adjust base)
    | _ => return base

/-- The arguments of a call, from behind its opening parenthesis. -/
def arguments : (fuel : Nat) → Read (List Expr)
  | 0 => throw .tooDeep
  | fuel + 1 => do
    if ← takeIf ")" then return []
    moreArguments fuel

/-- One argument at least. -/
def moreArguments : (fuel : Nat) → Read (List Expr)
  | 0 => throw .tooDeep
  | fuel + 1 => do
    let e ← assignment fuel
    if ← takeIf "," then return e :: (← moreArguments fuel)
    expect ")"
    return [e]

/-- A type that is not `void`. -/
def typeTree : (fuel : Nat) → Read TypeTree
  | 0 => throw .tooDeep
  | fuel + 1 => do
    match ← next with
    | .word "struct" => do
      let _ ← take
      let n ← name
      expect "\x7b"
      let found ← members fuel
      expect "\x7d"
      modify fun i => { i with types := n :: i.types }
      return .definition n found (← sizes fuel)
    | .word w =>
      match Ty.ofWord? w with
      | some (some ty) => do let _ ← take; return .known ty (← sizes fuel)
      | some none => throw .badType
      | none =>
        if (← get).types.contains w then do let _ ← take; return .named w (← sizes fuel)
        else fault
    | _ => fault

/-- Array sizes, possibly none. -/
def sizes : (fuel : Nat) → Read (List (Option Expr))
  | 0 => throw .tooDeep
  | fuel + 1 => do
    if ← takeIf "[" then
      if ← takeIf "]" then return none :: (← sizes fuel)
      let size ← expression fuel
      expect "]"
      return some size :: (← sizes fuel)
    else return []

/-- The members of a structure, up to its closing brace. -/
def members : (fuel : Nat) → Read (List MemberTree)
  | 0 => throw .tooDeep
  | fuel + 1 => do
    let type ← typeTree fuel
    let found ← memberNames fuel type
    expect ";"
    let _ ← next
    if ← at? "\x7d" then return found
    return found ++ (← members fuel)

/-- Members of one type. -/
def memberNames : (fuel : Nat) → (type : TypeTree) → Read (List MemberTree)
  | 0, _ => throw .tooDeep
  | fuel + 1, type => do
    let n ← name
    let m := MemberTree.member type n (← sizes fuel)
    if ← takeIf "," then return m :: (← memberNames fuel type)
    return [m]

end

/-! ### Declarations and statements -/

/-- The storage that a word asks for. -/
def storageOfWord? (w : String) : Option Storage :=
  match w with
  | "const" => some .constant
  | "in" => some .input
  | "out" => some .output
  | "uniform" => some .uniform
  | "shared" => some .shared
  | "buffer" => some .buffer
  | _ => none

/-- The entries of a layout qualifier, up to its closing parenthesis. -/
def layoutEntries : (fuel : Nat) → Read (List (String × Option Expr))
  | 0 => throw .tooDeep
  | fuel + 1 => do
    let key ← name
    let entry ← if key != "std140" && key != "std430" && (← takeIf "=") then do
        pure (key, some (← conditional fuel (← binary fuel 0 (← unary fuel))))
      else pure (key, none)
    if ← takeIf "," then return entry :: (← layoutEntries fuel)
    expect ")"
    return [entry]

/-- The qualifiers in front of a declaration. -/
def qualifiers : (fuel : Nat) → Qualifiers → Read Qualifiers
  | 0, _ => throw .tooDeep
  | fuel + 1, q => do
    if !(← atQualifier) then return q
    match ← take with
    | .word "layout" => do
      expect "("
      let entries ← layoutEntries fuel
      qualifiers fuel { q with layout := entries.reverse ++ q.layout }
    | .word w =>
      match storageOfWord? w with
      | some s =>
        if q.storage.isSome then throw .misplacedQualifier
        qualifiers fuel { q with storage := some s }
      | none =>
        if w == "invariant" then
          if q.invariant then throw .misplacedQualifier
          qualifiers fuel { q with invariant := true }
        else if ["flat", "noperspective", "smooth"].contains w then
          if q.interpolation.isSome then throw .misplacedQualifier
          qualifiers fuel { q with interpolation := some w }
        else if w == "centroid" || w == "sample" then
          if q.sampling then throw .misplacedQualifier
          qualifiers fuel { q with sampling := true }
        else if w == "readonly" || w == "writeonly" then qualifiers fuel { q with memory := true }
        else qualifiers fuel q
    | _ => fault

/-- How a parameter is passed. -/
def direction : Read Direction := do
  if ← takeWord "in" then return .input
  if ← takeWord "out" then return .output
  if ← takeWord "inout" then return .both
  if ← takeWord "const" then return .constant
  return .input

/-- The parameters of a function, up to but without the closing parenthesis. -/
def parameters : (fuel : Nat) → Read (List ParameterTree)
  | 0 => throw .tooDeep
  | fuel + 1 => do
    let passed : Bool := match ← next? with
      | some (.word w) => ["in", "out", "inout", "const"].contains w
      | _ => false
    if !passed && !(← atType) then return []
    let direction ← direction
    let type ← typeTree fuel
    if ← takeIf "," then return ⟨direction, type, none⟩ :: (← parameters fuel)
    match ← next with
    | .word _ => do
      let n ← name
      let type ← match ← sizes fuel, type with
        | [], type => pure type
        | more, .known ty inner => pure (.known ty (more ++ inner))
        | more, .named w inner => pure (.named w (more ++ inner))
        | more, .definition w found inner => pure (.definition w found (more ++ inner))
      let p : ParameterTree := ⟨direction, type, some n⟩
      if ← takeIf "," then return p :: (← parameters fuel)
      return [p]
    | _ => return []

mutual

/-- What a variable starts with. -/
def initializer : (fuel : Nat) → Read Initializer
  | 0 => throw .tooDeep
  | fuel + 1 => do
    if ← takeIf "\x7b" then return .list (← initializers fuel)
    return .value (← assignment fuel)

/-- The items of an initializer list, from behind its brace. -/
def initializers : (fuel : Nat) → Read (List Initializer)
  | 0 => throw .tooDeep
  | fuel + 1 => do
    let i ← initializer fuel
    if ← takeIf "," then
      if ← takeIf "\x7d" then return [i]
      return i :: (← initializers fuel)
    expect "\x7d"
    return [i]

end

/-- The variables of a declaration, up to its semicolon. -/
def declarators : (fuel : Nat) → Read (List Declarator)
  | 0 => throw .tooDeep
  | fuel + 1 => do
    if ← takeIf ";" then return []
    let n ← name
    let dimensions ← sizes fuel
    let initial ← if ← takeIf "=" then some <$> initializer fuel else pure none
    let d : Declarator := ⟨n, dimensions, initial⟩
    if ← takeIf "," then return d :: (← declarators fuel)
    expect ";"
    return [d]

mutual

/-- A declaration, if one comes next; functions have bodies only where `external` says so. -/
def declaration? : (fuel : Nat) → (external : Bool) → Read (Option Declaration)
  | 0, _ => throw .tooDeep
  | fuel + 1, external => do
    if !(← atQualifier) && !(← atType) then
      if ← takeWord "precision" then
        match ← take with
        | .word w => if ["highp", "mediump", "lowp"].all (· != w) then fault
        | _ => fault
        let type ← typeTree fuel
        expect ";"
        return some (.precision type)
      return none
    let q ← qualifiers fuel {}
    if ← atType then
      let type ← if ← takeWord "void" then pure none else some <$> typeTree fuel
      let before ← get
      match ← next with
      | .word w =>
        if isName w then
          let n ← name
          if ← takeIf "(" then
            let ps ← if ← takeWord "void" then pure [] else parameters fuel
            expect ")"
            let _ ← next
            if ← takeIf ";" then return some (.function type n ps none)
            if !external then fault
            expect "\x7b"
            return some (.function type n ps (some (← statements fuel)))
      | _ => pure ()
      set before
      match type with
      | none => throw .badType
      | some type =>
        let _ ← takeIf ","
        return some (.variables q type (← declarators fuel))
    match ← next with
    | .mark ";" => do let _ ← take; return some (.setting q)
    | .word _ => do
      let n ← name
      if ← takeIf "\x7b" then
        let found ← members fuel
        expect "\x7d"
        if ← takeIf ";" then return some (.block q n found none)
        let instanceName ← name
        let dimensions ← sizes fuel
        expect ";"
        return some (.block q n found (some (instanceName, dimensions)))
      if !q.invariant then fault
      expect ";"
      return some (.invariant q n)
    | _ => fault

/-- Statements up to the closing brace, which is taken. -/
def statements : (fuel : Nat) → Read (List Statement)
  | 0 => throw .tooDeep
  | fuel + 1 => do
    let _ ← next
    if ← takeIf "\x7d" then return []
    let s ← statement fuel
    return s :: (← statements fuel)

/-- A statement. -/
def statement : (fuel : Nat) → Read Statement
  | 0 => throw .tooDeep
  | fuel + 1 => do
    let declares ← if ← atQualifier then pure true
      else if ← atType then
        -- A type followed by an opening parenthesis starts an expression.
        pure ((← get).tokens[1]? != some (.mark "("))
      else pure false
    if declares then
      match ← declaration? fuel false with
      | some d => return .declare d
      | none => fault
    match ← next with
    | .mark ";" => do let _ ← take; return .empty
    | .mark "\x7b" => do let _ ← take; return .block (← statements fuel)
    | .word "continue" => do let _ ← take; expect ";"; return .continue
    | .word "break" => do let _ ← take; expect ";"; return .break
    | .word "discard" => do let _ ← take; expect ";"; return .discard
    | .word "return" => do
      let _ ← take
      let _ ← next
      if ← takeIf ";" then return .return none
      let e ← expression fuel
      expect ";"
      return .return (some e)
    | .word "if" => do
      let _ ← take
      expect "("
      let condition ← expression fuel
      expect ")"
      let accept ← statement fuel
      if ← takeWord "else" then return .choose condition accept (some (← statement fuel))
      return .choose condition accept none
    | .word "while" => do
      let _ ← take
      expect "("
      let condition ← expression fuel
      expect ")"
      return .loop condition (← statement fuel)
    | .word "do" => do
      let _ ← take
      let body ← statement fuel
      if !(← takeWord "while") then fault
      expect "("
      let condition ← expression fuel
      expect ")"
      expect ";"
      return .loopAfter body condition
    | .word "for" => do let _ ← take; counted fuel
    | .word "switch" => do
      let _ ← take
      expect "("
      let selector ← expression fuel
      expect ")"
      expect "\x7b"
      return .switch selector (← cases fuel)
    | _ => do
      let e ← expression fuel
      expect ";"
      return .express e

/-- The rest of a `for` statement. -/
def counted : (fuel : Nat) → Read Statement
  | 0 => throw .tooDeep
  | fuel + 1 => do
    expect "("
    let start ← if ← takeIf ";" then pure none
      else if (← atType) || (← atQualifier) then
        match ← declaration? fuel false with
        | some d => pure (some (Statement.declare d))
        | none => fault
      else do
        let e ← expression fuel
        expect ";"
        pure (some (Statement.express e))
    let condition ← if ← takeIf ";" then pure none
      else if (← atType) || (← atQualifier) then do
        let _ ← qualifiers fuel {}
        let type ← typeTree fuel
        let n ← name
        expect "="
        let i ← initializer fuel
        expect ";"
        pure (some (.inr (type, n, i)))
      else do
        let e ← expression fuel
        expect ";"
        pure (some (.inl e))
    let _ ← next
    let step ← if ← at? ")" then pure none else some <$> expression fuel
    expect ")"
    return .count start condition step (← statement fuel)

/-- The cases of a `switch`, up to its closing brace, which is taken. -/
def cases : (fuel : Nat) → Read (List (Option Expr × List Statement))
  | 0 => throw .tooDeep
  | fuel + 1 => do
    let _ ← next
    if ← takeIf "\x7d" then return []
    let value ← if ← takeWord "case" then
        some <$> (do conditional fuel (← binary fuel 0 (← unary fuel)))
      else if ← takeWord "default" then pure none
      else fault
    expect ":"
    let body ← caseBody fuel
    return (value, body) :: (← cases fuel)

/-- The statements of a case, up to the next case or the closing brace. -/
def caseBody : (fuel : Nat) → Read (List Statement)
  | 0 => throw .tooDeep
  | fuel + 1 => do
    match ← next with
    | .word "case" => return []
    | .word "default" => return []
    | .mark "\x7d" => return []
    | _ => do
      let s ← statement fuel
      return s :: (← caseBody fuel)

end

/-- The declarations of a program. -/
def program : (fuel : Nat) → Read (List Declaration)
  | 0 => throw .tooDeep
  | fuel + 1 => do
    if (← next?).isNone then return []
    match ← declaration? fuel true with
    | some d => return d :: (← program fuel)
    | none => fault

end Read

/-- The declarations that a token list writes. -/
def Declaration.ofTokens (tokens : List Token) : Except Fault (List Declaration) :=
  (Read.program (16 * tokens.length + 16)).run' ⟨tokens, []⟩

end ShaderFilm.Glsl
