import ShaderFilm.Text.Word

/-!
# Tokens of shell scripts

Words keep track of which of their characters were quoted, and of the parameters that are filled in
when a command is run.
-/

namespace ShaderFilm.Shell

/-- A part of a word. -/
inductive Piece where
  | text (s : List Char) (quoted : Bool)
  | parameter (name : List Char) (quoted : Bool)
  deriving DecidableEq, Repr

abbrev Word := List Piece

/-- What a redirection does. -/
inductive Direction where
  | write
  | append
  | read
  | duplicate
  deriving DecidableEq, Repr

inductive Token where
  | word (w : Word)
  | newline
  | semicolon
  | andIf
  | orIf
  /-- A redirection of the descriptor with the given number. -/
  | redirect (descriptor : Nat) (direction : Direction)
  deriving DecidableEq, Repr

/-- Whether `c` separates words. -/
def isSeparator (c : Char) : Bool := [' ', '\t', '\n', ';', '&', '|', '<', '>', '(', ')'].contains c

/-- The name of a parameter, from behind the dollar sign. -/
def parameterName? : List Char → Option (List Char × List Char)
  | '\x7b' :: rest =>
    match rest.span (· != '\x7d') with
    | (name, _ :: rest) => some (name, rest)
    | (_, []) => none
  | c :: rest =>
    if c.isDigit ∨ ['@', '*', '#', '?'].contains c then some ([c], rest)
    else
      let name := (c :: rest).takeWhile Text.isIdentChar
      if name.isEmpty then none else some (name, (c :: rest).drop name.length)
  | [] => none

/-- The rest of a word between double quotes. -/
def doubleQuoted? : (fuel : Nat) → List Char → Option (Word × List Char)
  | 0, _ => none
  | fuel + 1, s =>
    match s with
    | [] => none
    | '"' :: rest => some ([.text [] true], rest)
    | '\\' :: c :: rest => do
      let text := if ['"', '\\', '$'].contains c then [c] else ['\\', c]
      let (w, rest) ← doubleQuoted? fuel rest
      some (.text text true :: w, rest)
    | '$' :: rest => do
      match parameterName? rest with
      | some (name, rest) =>
        let (w, rest) ← doubleQuoted? fuel rest
        some (.parameter name true :: w, rest)
      | none =>
        let (w, rest) ← doubleQuoted? fuel rest
        some (.text ['$'] true :: w, rest)
    | c :: rest => do
      let (w, rest) ← doubleQuoted? fuel rest
      some (.text [c] true :: w, rest)

/-- A word up to the next separator. -/
def word? : (fuel : Nat) → List Char → Option (Word × List Char)
  | 0, _ => none
  | fuel + 1, s =>
    match s with
    | [] => some ([], [])
    | '\'' :: rest =>
      match rest.span (· != '\'') with
      | (text, _ :: rest) => do
        let (w, rest) ← word? fuel rest
        some (.text text true :: w, rest)
      | (_, []) => none
    | '"' :: rest => do
      let (inner, rest) ← doubleQuoted? fuel rest
      let (w, rest) ← word? fuel rest
      some (inner ++ w, rest)
    | '\\' :: '\n' :: rest => word? fuel rest
    | '\\' :: c :: rest => do
      let (w, rest) ← word? fuel rest
      some (.text [c] true :: w, rest)
    | '$' :: rest => do
      match parameterName? rest with
      | some (name, rest) =>
        let (w, rest) ← word? fuel rest
        some (.parameter name false :: w, rest)
      | none =>
        let (w, rest) ← word? fuel rest
        some (.text ['$'] false :: w, rest)
    | c :: rest =>
      if isSeparator c then some ([], s)
      else do
        let (w, rest) ← word? fuel rest
        some (.text [c] false :: w, rest)

/-- A redirection of a descriptor, from its arrow on. -/
def redirect? (descriptor : Option Nat) : List Char → Option (Token × List Char)
  | '>' :: '>' :: rest => some (.redirect (descriptor.getD 1) .append, rest)
  | '>' :: '&' :: rest => some (.redirect (descriptor.getD 1) .duplicate, rest)
  | '>' :: rest => some (.redirect (descriptor.getD 1) .write, rest)
  | '<' :: rest => some (.redirect (descriptor.getD 0) .read, rest)
  | _ => none

/-- A redirection, if one begins here. -/
def arrow? (s : List Char) : Option (Token × List Char) :=
  match s with
  | c :: rest =>
    if c.isDigit then redirect? (some (c.toNat - '0'.toNat)) rest else redirect? none s
  | [] => none

/-- The tokens of a script. -/
def tokens? : (fuel : Nat) → List Char → Option (List Token)
  | 0, _ => none
  | fuel + 1, s =>
    match s with
    | [] => some []
    | ' ' :: rest => tokens? fuel rest
    | '\t' :: rest => tokens? fuel rest
    | '\n' :: rest => do some (.newline :: (← tokens? fuel rest))
    | '#' :: rest => tokens? fuel (rest.dropWhile (· != '\n'))
    | ';' :: rest => do some (.semicolon :: (← tokens? fuel rest))
    | '&' :: '&' :: rest => do some (.andIf :: (← tokens? fuel rest))
    | '|' :: '|' :: rest => do some (.orIf :: (← tokens? fuel rest))
    | c :: _ =>
      match arrow? s with
      | some (token, rest) => do some (token :: (← tokens? fuel rest))
      | none =>
        if isSeparator c then none
        else do
          let (w, rest) ← word? fuel s
          some (.word w :: (← tokens? fuel rest))

end ShaderFilm.Shell
