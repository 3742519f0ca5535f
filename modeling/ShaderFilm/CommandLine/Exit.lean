import ShaderFilm.CommandLine.Help
import ShaderFilm.CommandLine.Run

/-!
# How the program ends

What is printed and the exit code: 0 for what was done, 1 for a run that failed, and 2 for arguments
that are refused.
-/

namespace ShaderFilm.CommandLine

open ShaderFilm.Device (Adapter)
open ShaderFilm.Encoder (Host)
open ShaderFilm.Files (Tree)

/-- How the program ends. -/
structure Exit where
  code : Nat
  printed : List Char
  /-- What goes to standard error. -/
  complaint : List Char
  deriving DecidableEq, Repr

namespace Exit

/-! ### Complaints -/

/-- A text whose later lines are moved to the right. -/
def indented (width : Nat) (s : String) : List Char :=
  s.toList.flatMap fun c => if c = '\n' then '\n' :: List.replicate width ' ' else [c]

/-- A cause that has no others beside it. -/
def onlyCause (cause : String) : List Char := "\n    ".toList ++ indented 4 cause

/-- One of several causes, with its number. -/
def numberedCause (cause : String) (n : Nat) : List Char :=
  let number := (toString n).toList
  '\n' :: List.replicate (5 - number.length) ' ' ++ number ++ ": ".toList ++ indented 7 cause

/-- The causes behind a message. -/
def causesText : List String → List Char
  | [] => []
  | [cause] => "\n\nCaused by:".toList ++ onlyCause cause
  | causes =>
    "\n\nCaused by:".toList ++ causes.zipIdx.flatMap fun (cause, n) => numberedCause cause n

/-- What is said about a failure, given the message about it and those about its causes. -/
def failureText (chain : List String) : List Char :=
  "Error: ".toList ++ (chain.headD "").toList ++ causesText chain.tail ++ ['\n']

/-! ### Ends -/

/-- The end where arguments are refused, or where they ask for help or the version. -/
def ofRefusal (encoder : Option String) : Refusal → Exit
  | .helpWanted => ⟨0, (helpText encoder).toList, []⟩
  | .versionWanted => ⟨0, versionText.toList, []⟩
  | refusal =>
    if refusal.crashes then ⟨101, [], []⟩
    else ⟨2, [], (refusal.message?.getD "").toList ++ ['\n']⟩

/-- The end of a run. -/
def ofReport (r : Report) : Exit :=
  match r.fault with
  | none => ⟨0, r.printed, []⟩
  | some fault =>
    if fault.crashes then ⟨101, r.printed, []⟩ else ⟨1, r.printed, failureText fault.chain⟩

end Exit

variable {σ : Type}

/-- What the program does with its arguments, where the environment may name an encoder. -/
def invoke (host : Host σ) (adapter : Option Adapter) (arguments : List String)
    (encoder : Option String) (files : Tree) : Exit × Tree :=
  match Arguments.read arguments encoder with
  | .error refusal => (.ofRefusal encoder refusal, files)
  | .ok a =>
    let report := run host adapter a files
    (.ofReport report, report.files)

end ShaderFilm.CommandLine
