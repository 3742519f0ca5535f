/-!
# Faults of the file system
-/

namespace ShaderFilm.Files

/-- Why something could not be done with a file or a running program. -/
inductive Fault where
  | notFound
  | permissionDenied
  | alreadyExists
  | notADirectory
  | isADirectory
  | notExecutable
  | brokenPipe
  /-- The bytes of a file are no text. -/
  | notText
  /-- The input of a program was closed before. -/
  | inputClosed
  /-- Anything else that a system reports, in its own words. -/
  | other (text : String)
  deriving DecidableEq, Repr

def Fault.message : Fault → String
  | notFound => "No such file or directory (os error 2)"
  | permissionDenied => "Permission denied (os error 13)"
  | alreadyExists => "File exists (os error 17)"
  | notADirectory => "Not a directory (os error 20)"
  | isADirectory => "Is a directory (os error 21)"
  | notExecutable => "Exec format error (os error 8)"
  | brokenPipe => "Broken pipe (os error 32)"
  | notText => "stream did not contain valid UTF-8"
  | inputClosed => "encoder input already closed"
  | other text => text

end ShaderFilm.Files
