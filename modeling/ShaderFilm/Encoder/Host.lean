import ShaderFilm.Encoder.Fault
import ShaderFilm.Files.Tree

/-!
# Programs that can be run

A host runs programs.  What it runs is left open: all that is said about a program is what it does
with what is written to its input, how it ends, and what it leaves in the file tree.
-/

namespace ShaderFilm.Encoder

open ShaderFilm.Files (Tree)

/-- What becomes of bytes that are written to a program. -/
inductive Acceptance where
  | whole
  /-- Only so many bytes were taken before the fault. -/
  | part (count : Nat) (fault : Files.Fault)
  deriving DecidableEq, Repr

/-- How a program ended. -/
structure Ending where
  status : ExitStatus
  /-- What it wrote to its standard error. -/
  diagnostics : List UInt8
  files : Tree

/-- What runs programs, where `σ` is the state of a running one. -/
structure Host (σ : Type) where
  /-- Runs a program without input to its end. -/
  run : Tree → (program : String) → (arguments : List String) → Except Files.Fault Ending
  /-- Starts a program whose input is written later. -/
  launch : Tree → (program : String) → (arguments : List String) → Except Files.Fault σ
  /-- Writes to the input of a program. -/
  write : σ → List UInt8 → Acceptance × σ
  /-- How a program ends when its input is closed. -/
  ending : σ → Ending
  /-- What a program leaves when it is killed. -/
  killed : σ → Tree

variable {σ : Type}

/-- Runs a program once to see whether it can be run. -/
def probe (host : Host σ) (files : Tree) (program : String) : Option Fault × Tree :=
  match host.run files program ["-version"] with
  | .error fault => (some (.unavailable program fault), files)
  | .ok ending =>
    (if ending.status = 0 then none else some (.probeFailed program ending.status), ending.files)

end ShaderFilm.Encoder
