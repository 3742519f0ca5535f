import ShaderFilm.Shell.Course

/-!
# Running scripts

A host that runs the scripts of a file tree and the programs that a system comes with.  A program
that has ended takes no more input; one that waits for its input takes all of it.
-/

namespace ShaderFilm.Shell

open ShaderFilm.Encoder (Acceptance Ending Host)
open ShaderFilm.Files (Content Fault Node Path Tree Utility)

/-- What a program name stands for: names without a separator are looked up among the programs of
the system. -/
def programNode (files : Tree) (program : List Char) : Except Fault Node :=
  if program.contains '/' then files.node? ⟨program⟩
  else if program.isEmpty then .error .notFound
  else files.node? ⟨"/bin/".toList ++ program⟩

/-- The path of the program that a script names in its first line. -/
def interpreter? (text : List Char) : Option Path :=
  match text with
  | '#' :: '!' :: rest => (Text.words (rest.takeWhile (· != '\n'))).head?.map fun word => ⟨word⟩
  | _ => none

/-- The course of a program of the system. -/
def utilityCourse (files : Tree) (arguments : List (List Char)) : Utility → Course
  | .succeed => .ended ⟨0, [], files⟩
  | .fail => .ended ⟨1, [], files⟩
  | .shell =>
    let option := ((arguments.headD []).drop 1).take 1
    .ended ⟨2, Text.encode ("sh: 0: Illegal option -".toList ++ option ++ ['\n']), files⟩

/-- The course of an executable file. -/
def fileCourse (files : Tree) (program : List Char) (arguments : List (List Char))
    (bytes : List UInt8) : Except Fault Course := do
  let text := Text.decodeLeniently bytes
  let some path := interpreter? text | throw .notExecutable
  match ← files.node? path with
  | .utility .shell => return course files program text arguments
  | .utility u => return utilityCourse files arguments u
  | _ => throw .permissionDenied

/-- The course of a program, if it can be started. -/
def start (files : Tree) (program : String) (arguments : List String) : Except Fault Course := do
  let name := program.toList
  let arguments := arguments.map String.toList
  match ← programNode files name with
  | .utility u => return utilityCourse files arguments u
  | .file (.bytes bytes) true => fileCourse files name arguments bytes
  | .file (.picture _ _ _) true => throw .notExecutable
  | _ => throw .permissionDenied

/-- A started program and what was written to it, the last first. -/
structure Started where
  course : Course
  received : List (List UInt8)

namespace Started

def write (p : Started) (bytes : List UInt8) : Acceptance × Started :=
  match p.course with
  | .ended _ => (.part 0 .brokenPipe, p)
  | .waiting _ _ => (.whole, { p with received := bytes :: p.received })

def ending (p : Started) : Ending :=
  match p.course with
  | .ended e => e
  | .waiting _ resume => resume p.received.reverse.flatten

def killed (p : Started) : Tree :=
  match p.course with
  | .ended e => e.files
  | .waiting files _ => files

end Started

/-- The host of scripts. -/
def host : Host Started where
  run files program arguments := do
    match ← start files program arguments with
    | .ended e => return e
    | .waiting _ resume => return resume []
  launch files program arguments := do return ⟨← start files program arguments, []⟩
  write := Started.write
  ending := Started.ending
  killed := Started.killed

end ShaderFilm.Shell
