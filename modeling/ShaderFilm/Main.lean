import ShaderFilm.CommandLine.Exit
import ShaderFilm.Shell.Host

/-!
# The program

Reads the job file and the shader that its arguments name, and prints what comes of them.  There is
no graphics adapter at hand, so a run that needs one ends by saying so.
-/

namespace ShaderFilm

open ShaderFilm.CommandLine
open ShaderFilm.Files (Path Tree)

/-- The tree with what is found at a path. -/
def fetch (files : Tree) : Option Path → IO Tree
  | none => return files
  | some path =>
    try
      let bytes ← IO.FS.readBinFile path.toString
      return files.withFile path (.bytes bytes.toList) false
    catch
      | .inappropriateType .. => return files.withDirectory path
      | _ => return files

/-- The shader that is to be rendered. -/
def shaderPath (a : Arguments) (files : Tree) : Option Path :=
  match loadJobFile a files with
  | .ok c => a.shader.or c.shader
  | .error _ => a.shader

/-- The files that the arguments name. -/
def gather (arguments : List String) : IO Tree :=
  match Arguments.read arguments none with
  | .error _ => return .surroundings
  | .ok a => do
    let files ← fetch .surroundings a.config
    fetch files (shaderPath a files)

end ShaderFilm

open ShaderFilm in
def main (arguments : List String) : IO UInt32 := do
  let encoder ← IO.getEnv CommandLine.Setting.encoderVariable
  let files ← gather arguments
  let (exit, _) := CommandLine.invoke Shell.host none arguments encoder files
  (← IO.getStdout).putStr (String.ofList exit.printed)
  (← IO.getStderr).putStr (String.ofList exit.complaint)
  return UInt32.ofNat exit.code
