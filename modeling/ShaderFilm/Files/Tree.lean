import ShaderFilm.Files.Fault
import ShaderFilm.Files.Path
import ShaderFilm.Text.Utf8

/-!
# File trees

A tree says what is found under which names.  Names are counted from the working directory; those of
absolute paths begin with an empty name, so `/tmp` is `["", "tmp"]`.  There are no links, so a path
can be followed name by name.
-/

namespace ShaderFilm.Files

/-- What a file holds. -/
inductive Content where
  | bytes (bytes : List UInt8)
  /-- An image in an image format, given by its size and its pixels. -/
  | picture (width height : UInt32) (pixels : List UInt8)
  deriving DecidableEq, Repr

/-- The programs that a system comes with. -/
inductive Utility where
  | shell
  | succeed
  | fail
  deriving DecidableEq, Repr

/-- What a name stands for. -/
inductive Node where
  | directory
  | file (content : Content) (executable : Bool)
  /-- The device that swallows what is written to it and is empty to read. -/
  | sink
  | utility (u : Utility)
  deriving DecidableEq, Repr

abbrev Names := List (List Char)

structure Tree where
  entries : List (Names × Node)

namespace Tree

/-- What stands under the given names.  The working directory is always there. -/
def find? (t : Tree) (names : Names) : Option Node :=
  if names = [] then some .directory else t.entries.lookup names

/-- The tree with something new under the given names. -/
def put (t : Tree) (names : Names) (node : Node) : Tree :=
  ⟨(names, node) :: t.entries.filter (·.1 != names)⟩

/-- The tree with nothing under the given names. -/
def drop (t : Tree) (names : Names) : Tree := ⟨t.entries.filter (·.1 != names)⟩

/-- What surrounds the working directory. -/
def surroundings : Tree where
  entries := [(["", "dev", "null"], .sink), (["", "bin", "sh"], .utility .shell),
    (["", "bin", "true"], .utility .succeed), (["", "bin", "false"], .utility .fail),
    ([""], .directory), (["", "dev"], .directory), (["", "bin"], .directory),
    (["", "tmp"], .directory)].map fun (names, node) => (names.map String.toList, node)

/-! ### Following paths -/

/-- Where a path leads. -/
inductive Place where
  | taken (names : Names) (node : Node)
  /-- Something could be made here; a path that ends in a separator asks for a directory. -/
  | free (names : Names) (asDirectory : Bool)
  deriving DecidableEq, Repr

/-- The names of the directory above. -/
def above (names : Names) : Names := if names = [[]] then names else names.dropLast

/-- Follows the pieces of a path from `here`. -/
def follow (t : Tree) (here : Names) : List (List Char) → Except Fault Place
  | [] =>
    match t.find? here with
    | some node => .ok (.taken here node)
    | none => .error .notFound
  | piece :: rest =>
    match t.find? here with
    | some .directory =>
      if Path.isFiller piece then t.follow here rest
      else if piece = "..".toList then t.follow (above here) rest
      else if (t.find? (here ++ [piece])).isSome then t.follow (here ++ [piece]) rest
      else if rest.all List.isEmpty then .ok (.free (here ++ [piece]) (!rest.isEmpty))
      else .error .notFound
    | some _ => .error .notADirectory
    | none => .error .notFound

/-- Where a path leads. -/
def locate (t : Tree) (p : Path) : Except Fault Place :=
  if p.text.isEmpty then .error .notFound
  else if p.isAbsolute then t.follow [[]] (Path.split p.text).tail
  else t.follow [] (Path.split p.text)

/-- What a path leads to. -/
def node? (t : Tree) (p : Path) : Except Fault Node := do
  match ← t.locate p with
  | .taken _ node => return node
  | .free _ _ => throw .notFound

def exists? (t : Tree) (p : Path) : Bool :=
  match t.node? p with
  | .ok _ => true
  | .error _ => false

def isFile (t : Tree) (p : Path) : Bool :=
  match t.node? p with
  | .ok (.file _ _) => true
  | .ok (.utility _) => true
  | _ => false

def isDirectory (t : Tree) (p : Path) : Bool := t.node? p matches .ok .directory

/-- The text of a file. -/
def readText (t : Tree) (p : Path) : Except Fault (List Char) := do
  match ← t.node? p with
  | .directory => throw .isADirectory
  | .file (.bytes bytes) _ =>
    match Text.decode? bytes with
    | some s => return s
    | none => throw .notText
  | .file (.picture _ _ _) _ => throw .notText
  | .sink => return []
  | .utility _ => throw .notText

/-- The size of a file in bytes; none where there is no file that consists of bytes. -/
def size? (t : Tree) (p : Path) : Option Nat :=
  match t.node? p with
  | .ok (.file (.bytes bytes) _) => some bytes.length
  | _ => none

/-- The tree with a file written.  A file that is there keeps its right to be executed. -/
def write (t : Tree) (p : Path) (content : Content) : Except Fault Tree := do
  match ← t.locate p with
  | .taken names (.file _ executable) => return t.put names (.file content executable)
  | .taken _ .directory => throw .isADirectory
  | .taken _ .sink => return t
  | .taken _ (.utility _) => throw .permissionDenied
  | .free names false => return t.put names (.file content false)
  | .free _ true => throw .isADirectory

/-- The tree with a directory made. -/
def makeDirectory (t : Tree) (p : Path) : Except Fault Tree := do
  match ← t.locate p with
  | .taken _ _ => throw .alreadyExists
  | .free names _ => return t.put names .directory

/-- Makes a directory and whatever directories lead to it.  Answers with what stood in the way, if
anything did, and with the tree as it is left behind. -/
def makeDirectories (t : Tree) : (fuel : Nat) → Path → Option Fault × Tree
  | 0, _ => (some .notFound, t)
  | fuel + 1, p =>
    if p.text.isEmpty then (none, t)
    else
      match t.makeDirectory p with
      | .ok made => (none, made)
      | .error .notFound =>
        match p.parent? with
        | none => (some .notFound, t)
        | some parent =>
          match makeDirectories t fuel parent with
          | (some fault, left) => (some fault, left)
          | (none, left) =>
            match left.makeDirectory p with
            | .ok made => (none, made)
            | .error fault => (if left.isDirectory p then none else some fault, left)
      | .error fault => (if t.isDirectory p then none else some fault, t)

/-- Makes the directory that a path lies in. -/
def makeParent (t : Tree) (p : Path) : Option (Path × Fault) × Tree :=
  match p.parent? with
  | none => (none, t)
  | some parent =>
    let (fault, left) := t.makeDirectories (parent.text.length + 1) parent
    (fault.map fun fault => (parent, fault), left)

/-- The tree with a file removed. -/
def remove (t : Tree) (p : Path) : Except Fault Tree := do
  match ← t.locate p with
  | .taken _ .directory => throw .isADirectory
  | .taken names _ => return t.drop names
  | .free _ _ => throw .notFound

/-! ### Trees from a list of files -/

/-- The tree with a file, and with the directories that lead to it. -/
def withFile (t : Tree) (p : Path) (content : Content) (executable : Bool) : Tree :=
  let t := (t.makeParent p).2
  match t.locate p with
  | .ok (.taken names (.file _ _)) => t.put names (.file content executable)
  | .ok (.free names false) => t.put names (.file content executable)
  | _ => t

/-- The tree with a directory, and with those that lead to it. -/
def withDirectory (t : Tree) (p : Path) : Tree := (t.makeDirectories (p.text.length + 1) p).2

/-- What stands below the working directory. -/
def belowWorkingDirectory (t : Tree) : List (Names × Node) :=
  t.entries.filter fun (names, _) => names.head? != some []

end Tree

end ShaderFilm.Files
