import ShaderFilm.Shell.Token

/-!
# Shell scripts

A script is a list of commands.  The language is the part of the shell that wrappers around a
program are written in: simple commands with redirections, `if`, `for`, groups, and lists.
-/

namespace ShaderFilm.Shell

structure Redirection where
  descriptor : Nat
  direction : Direction
  target : Word
  deriving DecidableEq, Repr

inductive Command where
  /-- A command in the line with the given number. -/
  | simple (line : Nat) (words : List Word) (redirections : List Redirection)
  | branch (condition body otherwise : List Command)
  /-- The body is run for every item; without a list, for every argument of the script. -/
  | forEach (name : List Char) (items : Option (List Word)) (body : List Command)
  | both (first second : Command)
  | either (first second : Command)
  | negate (c : Command)
  | group (body : List Command)
  | redirected (c : Command) (redirections : List Redirection)
  deriving Inhabited

/-- The text of a word without quotes and parameters. -/
def bareText? (w : Word) : Option (List Char) :=
  w.foldr (fun piece found =>
    match piece, found with
    | .text s false, some rest => some (s ++ rest)
    | _, _ => none) (some [])

/-- Whether a token is the given reserved word. -/
def isReserved (name : String) : Token → Bool
  | .word w => bareText? w == some name.toList
  | _ => false

/-- The rest behind a reserved word, which has to come next. -/
def behind? (name : String) : List Token → Option (List Token)
  | t :: rest => if isReserved name t then some rest else none
  | [] => none

def skipSeparators (ts : List Token) : List Token :=
  ts.dropWhile fun t => t == .newline || t == .semicolon

def skipNewlines (ts : List Token) : List Token := ts.dropWhile (· == .newline)

/-- The words and redirections of a simple command. -/
def simpleParts : (fuel : Nat) → List Token → Option ((List Word × List Redirection) × List Token)
  | 0, _ => none
  | fuel + 1, ts =>
    match ts with
    | .word w :: rest => do
      let ((words, redirections), rest) ← simpleParts fuel rest
      some ((w :: words, redirections), rest)
    | .redirect descriptor direction :: .word target :: rest => do
      let ((words, redirections), rest) ← simpleParts fuel rest
      some ((words, ⟨descriptor, direction, target⟩ :: redirections), rest)
    | .redirect _ _ :: _ => none
    | ts => some (([], []), ts)

/-- The redirections that come next. -/
def redirections : List Token → List Redirection × List Token
  | .redirect descriptor direction :: .word target :: rest =>
    let (more, rest) := redirections rest
    (⟨descriptor, direction, target⟩ :: more, rest)
  | ts => ([], ts)

/-- A command with the redirections behind it. -/
def redirected (c : Command) (ts : List Token) : Command × List Token :=
  match redirections ts with
  | ([], rest) => (c, rest)
  | (found, rest) => (.redirected c found, rest)

/-- The words up to the end of a line. -/
def wordsOfLine : List Token → List Word × List Token
  | .word w :: rest =>
    let (words, rest) := wordsOfLine rest
    (w :: words, rest)
  | ts => ([], ts)

mutual

/-- Commands up to one of the reserved words `stops`, or up to the end if there are none.  The
script has `total` line ends. -/
def commands? (total : Nat) : (fuel : Nat) → (stops : List String) → List Token →
    Option (List Command × List Token)
  | 0, _, _ => none
  | fuel + 1, stops, ts =>
    match skipSeparators ts with
    | [] => if stops.isEmpty then some ([], []) else none
    | t :: rest =>
      if stops.any (isReserved · t) then some ([], t :: rest)
      else do
        let (c, rest) ← chain? total fuel (t :: rest)
        match rest with
        | .newline :: _ | .semicolon :: _ | [] => do
          let (more, rest) ← commands? total fuel stops rest
          some (c :: more, rest)
        | _ => none

/-- Commands with `&&` and `||` between them. -/
def chain? (total : Nat) : (fuel : Nat) → List Token → Option (Command × List Token)
  | 0, _ => none
  | fuel + 1, ts => do
    let (c, rest) ← command? total fuel ts
    chainFrom? total fuel c rest

/-- Goes on behind the first command of a chain. -/
def chainFrom? (total : Nat) : (fuel : Nat) → Command → List Token → Option (Command × List Token)
  | 0, _, _ => none
  | fuel + 1, c, ts =>
    match ts with
    | .andIf :: rest => do
      let (next, rest) ← command? total fuel (skipNewlines rest)
      chainFrom? total fuel (.both c next) rest
    | .orIf :: rest => do
      let (next, rest) ← command? total fuel (skipNewlines rest)
      chainFrom? total fuel (.either c next) rest
    | ts => some (c, ts)

/-- A single command. -/
def command? (total : Nat) : (fuel : Nat) → List Token → Option (Command × List Token)
  | 0, _ => none
  | fuel + 1, ts =>
    match ts with
    | [] => none
    | t :: rest =>
      if isReserved "if" t then do
        let (c, rest) ← branch? total fuel rest
        some (redirected c rest)
      else if isReserved "\x7b" t then do
        let (body, rest) ← commands? total fuel ["\x7d"] rest
        some (redirected (.group body) (← behind? "\x7d" rest))
      else if isReserved "for" t then
        match rest with
        | .word name :: rest => do
          let name ← bareText? name
          let rest := skipNewlines rest
          let (items, rest) := match behind? "in" rest with
            | some rest =>
              let (words, rest) := wordsOfLine rest
              (some words, rest)
            | none => (none, rest)
          let rest ← behind? "do" (skipSeparators rest)
          let (body, rest) ← commands? total fuel ["done"] rest
          some (redirected (.forEach name items body) (← behind? "done" rest))
        | _ => none
      else if isReserved "!" t then do
        let (c, rest) ← command? total fuel rest
        some (.negate c, rest)
      else do
        let ((words, redirections), rest) ← simpleParts (ts.length + 1) ts
        if words.isEmpty ∧ redirections.isEmpty then none
        else
          let line := total - (ts.filter (· == .newline)).length + 1
          some (.simple line words redirections, rest)

/-- A conditional from behind its `if` or `elif` on. -/
def branch? (total : Nat) : (fuel : Nat) → List Token → Option (Command × List Token)
  | 0, _ => none
  | fuel + 1, ts => do
    let (condition, rest) ← commands? total fuel ["then"] ts
    let rest ← behind? "then" rest
    let (body, rest) ← commands? total fuel ["elif", "else", "fi"] rest
    match behind? "elif" rest, behind? "else" rest with
    | some rest, _ =>
      let (c, rest) ← branch? total fuel rest
      some (.branch condition body [c], rest)
    | none, some rest =>
      let (otherwise, rest) ← commands? total fuel ["fi"] rest
      some (.branch condition body otherwise, ← behind? "fi" rest)
    | none, none => some (.branch condition body [], ← behind? "fi" rest)

end

/-- The commands of a script. -/
def script? (s : List Char) : Option (List Command) := do
  let ts ← tokens? (s.length + 1) s
  let total := (ts.filter (· == .newline)).length
  let (commands, _) ← commands? total (4 * ts.length + 4) [] ts
  some commands

end ShaderFilm.Shell
