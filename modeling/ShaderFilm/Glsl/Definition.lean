import ShaderFilm.Glsl.Token

/-!
# Definitions and their expansion

A `#define` names a list of tokens, with or without parameters.  Expansion replaces each use until
no name that may still be replaced is left; a name is not replaced inside its own expansion.
-/

namespace ShaderFilm.Glsl

/-- What a name stands for. -/
structure Definition where
  /-- The parameters, if the name has to be called. -/
  parameters : Option (List String)
  body : List Token
  deriving DecidableEq, Repr

/-- The definitions in force, the newest first. -/
abbrev Definitions := List (String × Definition)

namespace Definitions

def find? (defs : Definitions) (name : String) : Option Definition := defs.lookup name

def erase (defs : Definitions) (name : String) : Definitions := defs.filter (·.1 != name)

/-- Adds a definition; a name may be defined again only in the same way. -/
def add (defs : Definitions) (name : String) (d : Definition) : Except Fault Definitions :=
  match defs.find? name with
  | none => .ok ((name, d) :: defs)
  | some old => if old = d then .ok defs else .error (.badDefinition name)

end Definitions

/-- A token together with the names inside whose expansion it stands. -/
abbrev Sourced := Token × List String

/-- The arguments of a call, given what follows its opening parenthesis; `depth` counts the
parentheses that are open inside, and `argument` holds the argument so far, reversed. -/
def cutArguments (depth : Nat) (argument : List Sourced) :
    List Sourced → Option (List (List Sourced) × List Sourced)
  | [] => none
  | t :: rest =>
    match t.1, depth with
    | .mark ")", 0 => some ([argument.reverse], rest)
    | .mark ",", 0 =>
      (cutArguments 0 [] rest).map fun (others, after) => (argument.reverse :: others, after)
    | .mark "(", _ => cutArguments (depth + 1) (t :: argument) rest
    | .mark ")", d + 1 => cutArguments d (t :: argument) rest
    | _, _ => cutArguments depth (t :: argument) rest

/-- The numbers that stand for names which every program finds defined. -/
def predefined? (name : String) : Option Token :=
  match name with
  | "__LINE__" => some (.integer 0 false)
  | "__FILE__" => some (.integer 0 false)
  | "__VERSION__" => some (.integer 450 false)
  | _ => none

/-- Replaces defined names in a token list, taking at most `fuel` steps. -/
def expandSourced (defs : Definitions) : (fuel : Nat) → List Sourced → Except Fault (List Sourced)
  | 0, _ => .error .tooDeep
  | _ + 1, [] => .ok []
  | fuel + 1, (token, inside) :: rest => do
    let keep (t : Token) : Except Fault (List Sourced) := do
      return (t, inside) :: (← expandSourced defs fuel rest)
    match token with
    | .word name =>
      if inside.contains name then keep token
      else
        match defs.find? name with
        | none => keep ((predefined? name).getD token)
        | some { parameters := none, body } =>
          expandSourced defs fuel (body.map (·, name :: inside) ++ rest)
        | some { parameters := some parameters, body } =>
          match rest with
          | (.mark "(", _) :: call =>
            match cutArguments 0 [] call with
            | none => throw (.badDefinition name)
            | some (arguments, after) =>
              let arguments := if parameters.isEmpty && arguments == [[]] then [] else arguments
              if arguments.length ≠ parameters.length then throw (.badDefinition name)
              let values ← arguments.mapM (expandSourced defs fuel)
              let bound := parameters.zip values
              let replaced := body.flatMap fun t =>
                match t with
                | .word w => (bound.lookup w).getD [(t, name :: inside)]
                | _ => [(t, name :: inside)]
              expandSourced defs fuel (replaced ++ after)
          | _ => keep token
    | _ => keep token

/-- How many steps the expansion of one stretch of text may take. -/
def expansionLimit : Nat := 1000000

/-- A token list with every defined name replaced. -/
def expand (defs : Definitions) (tokens : List Token) : Except Fault (List Token) :=
  return (← expandSourced defs expansionLimit (tokens.map (·, []))).map (·.1)

end ShaderFilm.Glsl
