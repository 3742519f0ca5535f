import ShaderFilm.Files.Tree
import ShaderFilm.JobFile.Contents

/-!
# Job files in a file tree
-/

namespace ShaderFilm.JobFile

open ShaderFilm.Files (Path Tree)

/-- Why a job file could not be loaded. -/
inductive LoadFault where
  | unreadable (path : Path) (fault : Files.Fault)
  | contents (fault : Fault)

/-- The words at which messages about a text that cannot be read begin; the rest of them shows the
place. -/
def parseWords : String := "TOML parse error"

namespace LoadFault

/-- What is said about the fault, and about what it goes back to. -/
def chain : LoadFault → List String
  | unreadable path fault =>
    ["failed to read job file " ++ path.toString ++ ": " ++ fault.message, fault.message]
  | contents (.refused reason) => ["invalid job file: " ++ reason.message]
  | contents _ => ["failed to parse job file: " ++ parseWords, parseWords]

def crashes : LoadFault → Bool
  | contents fault => fault.crashes
  | unreadable _ _ => false

end LoadFault

/-- The contents of the job file at a path. -/
def Contents.load (files : Tree) (path : Path) : Except LoadFault Contents :=
  match files.readText path with
  | .error fault => .error (.unreadable path fault)
  | .ok text =>
    match ofText text with
    | .error fault => .error (.contents fault)
    | .ok c => .ok (c.seenFrom path)

end ShaderFilm.JobFile
