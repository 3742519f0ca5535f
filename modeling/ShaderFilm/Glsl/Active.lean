import ShaderFilm.Glsl.Condition

/-!
# Active text

Directives are obeyed from the first line to the last: conditionals choose which lines count,
definitions are expanded in the lines that do.  What remains is one list of tokens.
-/

namespace ShaderFilm.Glsl

open ShaderFilm.Text

/-- An open conditional. -/
structure Branch where
  /-- Whether the text around the conditional is active. -/
  outside : Bool
  /-- Whether the present branch is active. -/
  active : Bool
  /-- Whether this branch or one before it was chosen. -/
  chosen : Bool
  /-- Whether the present branch is the last one. -/
  last : Bool

/-- What is known between two lines. -/
structure Reading where
  definitions : Definitions
  /-- The open conditionals, innermost first. -/
  branches : List Branch
  /-- The tokens of active lines that are not expanded yet, reversed. -/
  pending : List Token
  /-- The expanded tokens, in chunks, newest first. -/
  done : List (List Token)
  /-- Whether a directive was seen before. -/
  begun : Bool

namespace Reading

def initial : Reading :=
  { definitions := [("GL_core_profile", ⟨none, [.integer 1 false]⟩)]
    branches := [], pending := [], done := [], begun := false }

/-- Whether the present line counts. -/
def active (r : Reading) : Bool := r.branches.all (·.active)

/-- Expands what is pending. -/
def flush (r : Reading) : Except Fault Reading := do
  if r.pending.isEmpty then return r
  let tokens ← expand r.definitions r.pending.reverse
  return { r with pending := [], done := tokens :: r.done }

/-- Opens a conditional; its condition is asked for only where it counts. -/
def openBranch (r : Reading) (condition : Except Fault Bool) : Except Fault Reading := do
  let outside := r.active
  let chosen ← if outside then condition else pure false
  return { r with branches := ⟨outside, chosen, chosen, false⟩ :: r.branches }

end Reading

/-- The parameters of a definition, given what follows the opening parenthesis. -/
def parameterNames : List Token → Option (List String × List Token)
  | .mark ")" :: rest => some ([], rest)
  | .word name :: .mark ")" :: rest => some ([name], rest)
  | .word name :: .mark "," :: rest => do
    let (names, rest) ← parameterNames rest
    if names.isEmpty ∨ names.contains name then none
    some (name :: names, rest)
  | _ => none

/-- Whether the line, a definition of `name`, has a parenthesis right behind the name. -/
def hasParameters (line name : List Char) : Bool :=
  match cutAt name ((line.dropWhile isSpace).drop 1 |>.dropWhile isSpace |>.drop 6) with
  | some (_, '(' :: _) => true
  | _ => false

/-- Obeys a `#define`. -/
def defineName (r : Reading) (line : List Char) : List Token → Except Fault Reading
  | .word name :: rest => do
    let r ← r.flush
    let d ← if hasParameters line name.toList then
        match parameterNames (rest.drop 1) with
        | some (parameters, body) => pure (⟨some parameters, body⟩ : Definition)
        | none => throw (.badDefinition name)
      else pure ⟨none, rest⟩
    return { r with definitions := ← r.definitions.add name d }
  | _ => .error (.badDirective "define")

/-- Checks a `#version`, which has to come before every other directive. -/
def checkVersion (r : Reading) (arguments : List Token) : Except Fault Reading :=
  let known (n : Nat) : Bool := n == 440 || n == 450 || n == 460
  if r.begun then .error (.badDirective "version")
  else
    match arguments with
    | [.integer n _] => if known n then .ok r else .error (.badDirective "version")
    | [.integer n _, .word "core"] => if known n then .ok r else .error (.badDirective "version")
    | _ => .error (.badDirective "version")

/-- Obeys a directive in active text that is no conditional. -/
def plainDirective (r : Reading) (line : List Char) (name : String) (arguments : List Token) :
    Except Fault Reading :=
  let fault : Except Fault Reading := .error (.badDirective name)
  match name with
  | "define" => defineName r line arguments
  | "undef" =>
    match arguments with
    | [.word w] => do
      let r ← r.flush
      return { r with definitions := r.definitions.erase w }
    | _ => fault
  | "version" => checkVersion r arguments
  | "extension" =>
    match arguments with
    | [.word _, .mark ":", .word behaviour] =>
      if ["require", "enable", "warn", "disable"].contains behaviour then .ok r else fault
    | _ => fault
  | "pragma" => .ok r
  | "line" =>
    match arguments with
    | [.integer _ _] => .ok r
    | [.integer _ _, .integer _ _] => .ok r
    | _ => fault
  | "error" => .error .requested
  | _ => fault

/-- Obeys a directive, given without its number sign. -/
def directive (r : Reading) (line : List Char) (tokens : List Token) : Except Fault Reading := do
  match tokens with
  | [] => return r
  | .word name :: arguments =>
    let defined : Except Fault Bool :=
      match arguments with
      | [.word w] => .ok (r.definitions.find? w).isSome
      | _ => .error (.badDirective name)
    match name with
    | "if" => r.openBranch (Condition.holds r.definitions arguments)
    | "ifdef" => r.openBranch defined
    | "ifndef" => r.openBranch (defined.map (!·))
    | "elif" =>
      match r.branches with
      | b :: outer =>
        if b.last then throw .unbalanced
        let now ← if b.outside && !b.chosen then Condition.holds r.definitions arguments
          else pure false
        return { r with branches := { b with active := now, chosen := b.chosen || now } :: outer }
      | [] => throw .unbalanced
    | "else" =>
      match r.branches with
      | b :: outer =>
        if b.last then throw .unbalanced
        if b.outside && !arguments.isEmpty then throw (.badDirective name)
        return { r with
          branches := { b with active := b.outside && !b.chosen, chosen := true, last := true } ::
            outer }
      | [] => throw .unbalanced
    | "endif" =>
      match r.branches with
      | b :: outer =>
        if b.outside && !arguments.isEmpty then throw (.badDirective name)
        return { r with branches := outer }
      | [] => throw .unbalanced
    | _ => if r.active then plainDirective r line name arguments else return r
  | t :: _ => if r.active then throw (.unexpected (some t.spelling)) else return r

/-- Reads one line. -/
def readLine (r : Reading) (line : Line) : Except Fault Reading :=
  match line.tokens with
  | .mark "#" :: rest => do return { ← directive r line.text rest with begun := true }
  | tokens =>
    if r.active then
      if tokens.contains (.mark "#") then .error (.unexpected (some "#"))
      else .ok { r with pending := tokens.reverse ++ r.pending }
    else .ok r

/-- The tokens of a program text once its directives are obeyed. -/
def activeTokens (text : List Char) : Except Fault (List Token) := do
  let r ← (← Line.ofText text).foldlM readLine Reading.initial
  if !r.branches.isEmpty then throw .unbalanced
  return (← r.flush).done.reverse.flatten

end ShaderFilm.Glsl
