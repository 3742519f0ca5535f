import ShaderFilm.Encoder.Host
import ShaderFilm.Shell.Builtin
import ShaderFilm.Shell.Script
import ShaderFilm.Text.Blank

/-!
# How scripts run

A script runs until it ends or until it reads its input while that is not complete.  What a script
has done by then does not depend on the input.
-/

namespace ShaderFilm.Shell

open ShaderFilm.Encoder (Ending ExitStatus)
open ShaderFilm.Files (Path Tree)

/-- Where output goes. -/
inductive Sink where
  | nowhere
  | diagnostics
  | file (path : Path)

/-- Where the output of a command goes, and what it reads instead of the input. -/
structure Channels where
  output : Sink
  errors : Sink
  source : Option (List UInt8)

/-- The state of a running script. -/
structure State where
  files : Tree
  /-- The name of the script. -/
  name : List Char
  arguments : List (List Char)
  bindings : List (List Char × List Char)
  /-- What is left of the input, if all of it is known. -/
  input : Option (List UInt8)
  diagnostics : List UInt8
  status : ExitStatus
  /-- The line of the present command. -/
  line : Nat
  /-- The channels of commands without redirections. -/
  channels : Channels

/-- Why a script does not go on. -/
inductive Halt where
  | exited (s : State)
  /-- It waits for its input. -/
  | waiting (s : State)

namespace State

/-- The value of a parameter. -/
def value (s : State) (name : List Char) : List Char :=
  match String.ofList name with
  | "#" => (toString s.arguments.length).toList
  | "?" => (toString s.status).toList
  | "@" => spaced s.arguments
  | "*" => spaced s.arguments
  | "0" => s.name
  | _ =>
    if name.all Char.isDigit then (s.arguments[Number.natOfDigits name - 1]?).getD []
    else (s.bindings.lookup name).getD []

/-- Words that are being put together: those that are complete, and the one that is not. -/
structure Fields where
  complete : List (List Char)
  present : Option (List Char)

namespace Fields

/-- Adds to the present word. -/
def add (f : Fields) (s : List Char) : Fields := { f with present := some (f.present.getD [] ++ s) }

/-- Ends the present word. -/
def close (f : Fields) : Fields :=
  match f.present with
  | none => f
  | some w => ⟨f.complete ++ [w], none⟩

/-- Adds texts of which each but the first begins a word of its own. -/
def addAll (f : Fields) : List (List Char) → Fields
  | [] => f
  | w :: rest => rest.foldl (fun f w => f.close.add w) (f.add w)

/-- Adds a text that is cut at its blanks. -/
def addCut (f : Fields) (s : List Char) : Fields :=
  let f := if (s.head?).any Text.isBlank then f.close else f
  let f := f.addAll (Text.words s)
  if (s.getLast?).any Text.isBlank then f.close else f

end Fields

/-- The words that a word stands for. -/
def expand (s : State) (w : Word) : List (List Char) :=
  let step (f : Fields) : Piece → Fields
    | .text t _ => f.add t
    | .parameter name true =>
      if name = ['@'] then f.addAll s.arguments else f.add (s.value name)
    | .parameter name false => f.addCut (s.value name)
  (w.foldl step ⟨[], none⟩).close.complete

/-- The text that a word stands for. -/
def expandText (s : State) (w : Word) : List Char := spaced (s.expand w)

/-- Writes output. -/
def emit (s : State) (bytes : List UInt8) : Sink → State
  | .nowhere => s
  | .diagnostics => { s with diagnostics := s.diagnostics ++ bytes }
  | .file path =>
    match s.files.node? path with
    | .ok (.file (.bytes before) _) =>
      { s with files := (s.files.write path (.bytes (before ++ bytes))).toOption.getD s.files }
    | _ => s

end State

/-! ### Redirections -/

/-- Why a file cannot be written. -/
def createFault : Files.Fault → String
  | .isADirectory => "Is a directory"
  | .permissionDenied => "Permission denied"
  | _ => "Directory nonexistent"

/-- Applies a redirection, or says why it cannot be. -/
def redirectOne (r : Redirection) (s : State) (c : Channels) :
    Except String (State × Channels) :=
  let text := s.expandText r.target
  let path : Path := ⟨text⟩
  let toSink (sink : Sink) : Channels :=
    if r.descriptor = 2 then { c with errors := sink } else { c with output := sink }
  match r.direction with
  | .duplicate =>
    if text = ['2'] then .ok (s, toSink c.errors)
    else if text = ['1'] then .ok (s, toSink c.output)
    else .error (String.ofList text ++ ": bad file descriptor")
  | .write =>
    if text = "/dev/stderr".toList then .ok (s, toSink c.errors)
    else
      match s.files.write path (.bytes []) with
      | .ok files => .ok ({ s with files }, toSink (.file path))
      | .error fault => .error ("cannot create " ++ path.toString ++ ": " ++ createFault fault)
  | .append =>
    if (s.files.size? path).isSome then .ok (s, toSink (.file path))
    else
      match s.files.write path (.bytes []) with
      | .ok files => .ok ({ s with files }, toSink (.file path))
      | .error fault => .error ("cannot create " ++ path.toString ++ ": " ++ createFault fault)
  | .read =>
    match s.files.node? path with
    | .ok (.file (.bytes bytes) _) => .ok (s, { c with source := some bytes })
    | .ok .sink => .ok (s, { c with source := some [] })
    | _ => .error ("cannot open " ++ path.toString ++ ": No such file")

/-- Applies redirections from left to right. -/
def redirectAll : List Redirection → State → Channels → Except String (State × Channels)
  | [], s, c => .ok (s, c)
  | r :: rest, s, c => do
    let (s, c) ← redirectOne r s c
    redirectAll rest s c

/-! ### Commands -/

/-- A line of diagnostics that the shell itself writes. -/
def complain (s : State) (message : String) (sink : Sink) : State :=
  let text := String.ofList s.name ++ ": " ++ toString s.line ++ ": " ++ message ++ "\n"
  s.emit (Text.encode text.toList) sink

/-- Reads the input, or the first `limit` bytes of it. -/
def readInput (s : State) (c : Channels) (limit : Option Nat) : Except Halt (List UInt8 × State) :=
  let cut (bytes : List UInt8) : List UInt8 × List UInt8 :=
    match limit with
    | none => (bytes, [])
    | some n => (bytes.take n, bytes.drop n)
  match c.source, s.input with
  | some bytes, _ => .ok ((cut bytes).1, s)
  | none, some bytes => .ok ((cut bytes).1, { s with input := some (cut bytes).2 })
  | none, none => .error (.waiting s)

/-- Reads a file, or the input where its name is a dash. -/
def readOne (s : State) (c : Channels) (name : List Char) : Except Halt (List UInt8 × State) :=
  if name = ['-'] then readInput s c none
  else
    let failed (reason : String) : List UInt8 × State :=
      let text := "cat: ".toList ++ name ++ ": ".toList ++ reason.toList ++ ['\n']
      ([], { s with status := 1 }.emit (Text.encode text) c.errors)
    match s.files.node? ⟨name⟩ with
    | .ok (.file (.bytes bytes) _) => .ok (bytes, s)
    | .ok .sink => .ok ([], s)
    | .ok .directory => .ok (failed "Is a directory")
    | _ => .ok (failed "No such file or directory")

/-- Prints what files hold. -/
def concatenate (c : Channels) : List (List Char) → State → Except Halt State
  | [], s => .ok s
  | name :: rest, s => do
    let (bytes, s) ← readOne s c name
    concatenate c rest (s.emit bytes c.output)

/-- The status that says yes or no. -/
def statusOf (b : Bool) : ExitStatus := if b then 0 else 1

/-- Copies a file; a directory takes it under its own name. -/
def copied (files : Tree) (source target : Path) : Tree :=
  let target := if files.isDirectory target then
      match source.fileName? with
      | some name => target.under ⟨name⟩
      | none => target
    else target
  match files.node? source with
  | .ok (.file content _) => (files.write target content).toOption.getD files
  | _ => files

/-- Runs a command by its name. -/
def perform (name : String) (arguments : List (List Char)) (s : State) (c : Channels) :
    Except Halt State :=
  let ok : State := { s with status := 0 }
  match name with
  | ":" => .ok ok
  | "true" => .ok ok
  | "sleep" => .ok ok
  | "false" => .ok { s with status := 1 }
  | "echo" => .ok (ok.emit (echo arguments) c.output)
  | "printf" => .ok (ok.emit (formatted (arguments.headD []) arguments.tail) c.output)
  | "cat" => concatenate c (if arguments.isEmpty then [['-']] else arguments) ok
  | "exit" =>
    match arguments with
    | [] => .error (.exited s)
    | text :: _ =>
      if text.all Char.isDigit then
        .error (.exited { s with status := Number.natOfDigits text % 256 })
      else
        let message := "exit: Illegal number: " ++ String.ofList text
        .error (.exited (complain { s with status := 2 } message c.errors))
  | "head" =>
    match arguments with
    | [['-', 'c'], count] => do
      let (bytes, s) ← readInput ok c (some (Number.natOfDigits count))
      .ok (s.emit bytes c.output)
    | _ => .ok { s with status := 1 }
  | "wc" => do
    let (bytes, s) ← readInput ok c none
    .ok (s.emit (Text.encode ((toString bytes.length).toList ++ ['\n'])) c.output)
  | "cp" =>
    match arguments with
    | [source, target] => .ok { ok with files := copied s.files ⟨source⟩ ⟨target⟩ }
    | _ => .ok { s with status := 1 }
  | "mv" =>
    match arguments with
    | [source, target] =>
      let files := copied s.files ⟨source⟩ ⟨target⟩
      .ok { ok with files := (files.remove ⟨source⟩).toOption.getD files }
    | _ => .ok { s with status := 1 }
  | "shift" => .ok { ok with arguments := s.arguments.tail }
  | "test" => .ok { s with status := ((test? s.files arguments).map statusOf).getD 2 }
  | "[" =>
    if arguments.getLast? = some [']'] then
      .ok { s with status := ((test? s.files arguments.dropLast).map statusOf).getD 2 }
    else .ok { s with status := 2 }
  | "rm" =>
    let paths := arguments.filter (·.head? != some '-')
    .ok { ok with files := paths.foldl (fun t p => (t.remove ⟨p⟩).toOption.getD t) s.files }
  | "touch" =>
    .ok { ok with files := arguments.foldl (fun t p =>
      if t.exists? ⟨p⟩ then t else (t.write ⟨p⟩ (.bytes [])).toOption.getD t) s.files }
  | "mkdir" =>
    let paths := arguments.filter (·.head? != some '-')
    .ok { ok with files := paths.foldl (fun t p => t.withDirectory ⟨p⟩) s.files }
  | _ => .ok (complain { s with status := 127 } (name ++ ": not found") c.errors)

/-- A word that gives a variable a value. -/
def assignment? (w : Word) : Option (List Char × Word) :=
  let letters := w.takeWhile fun
    | .text [c] false => Text.isIdentChar c
    | _ => false
  match w.drop letters.length with
  | .text ['='] false :: value => do
    let name ← bareText? letters
    if name.isEmpty ∨ (name.head?).any Char.isDigit then none else some (name, value)
  | _ => none

/-- Runs a command in place of the script if it is led by `exec`. -/
def performOrReplace (name : List Char) (arguments : List (List Char)) (s : State) (c : Channels) :
    Except Halt State :=
  if name = "exec".toList then
    match arguments with
    | [] => .ok { s with status := 0, channels := c }
    | name :: arguments => do
      let s ← perform (String.ofList name) arguments s c
      .error (.exited s)
  else perform (String.ofList name) arguments s c

/-- Runs a simple command. -/
def runSimple (words : List Word) (redirections : List Redirection) (s : State) :
    Except Halt State :=
  let leading := words.takeWhile fun w => (assignment? w).isSome
  let s := (leading.filterMap assignment?).foldl (fun (s : State) (name, value) =>
    { s with bindings := (name, s.expandText value) :: s.bindings }) s
  match redirectAll redirections s s.channels with
  | .error message => .ok (complain { s with status := 2 } message s.channels.errors)
  | .ok (s, c) =>
    match (words.drop leading.length).flatMap s.expand with
    | [] => .ok { s with status := 0 }
    | name :: arguments => performOrReplace name arguments s c

mutual

/-- Runs one command.  The fuel bounds how deep commands are nested. -/
def runCommand : (fuel : Nat) → Command → State → Except Halt State
  | 0, _, s => .error (.exited { s with status := 2 })
  | fuel + 1, c, s =>
    match c with
    | .simple line words redirections => runSimple words redirections { s with line }
    | .branch condition body otherwise => do
      let s ← runAll fuel condition s
      if s.status = 0 then runAll fuel body s else runAll fuel otherwise { s with status := 0 }
    | .forEach name items body =>
      let values := match items with
        | some words => words.flatMap s.expand
        | none => s.arguments
      runEach fuel name values body { s with status := 0 }
    | .both first second => do
      let s ← runCommand fuel first s
      if s.status = 0 then runCommand fuel second s else .ok s
    | .either first second => do
      let s ← runCommand fuel first s
      if s.status = 0 then .ok s else runCommand fuel second s
    | .negate c => do
      let s ← runCommand fuel c s
      .ok { s with status := if s.status = 0 then 1 else 0 }
    | .group body => runAll fuel body s
    | .redirected c redirections =>
      match redirectAll redirections s s.channels with
      | .error message => .ok (complain { s with status := 2 } message s.channels.errors)
      | .ok (inner, channels) => do
        let after ← runCommand fuel c { inner with channels }
        .ok { after with channels := s.channels }
termination_by fuel _ _ => (fuel, 0)

/-- Runs commands one after the other. -/
def runAll (fuel : Nat) : List Command → State → Except Halt State
  | [], s => .ok s
  | c :: rest, s => do
    let s ← runCommand fuel c s
    runAll fuel rest s
termination_by cs _ => (fuel, cs.length + 1)

/-- Runs commands for every value of a variable. -/
def runEach (fuel : Nat) (name : List Char) :
    (values : List (List Char)) → List Command → State → Except Halt State
  | [], _, s => .ok s
  | value :: rest, body, s => do
    let s ← runAll fuel body { s with bindings := (name, value) :: s.bindings }
    runEach fuel name rest body s
termination_by values body _ => (fuel, body.length + values.length + 2)

end

/-! ### Courses -/

/-- How far a script gets without its input. -/
inductive Course where
  | ended (e : Ending)
  /-- It waits for its input; what it leaves if it is stopped now, and how it ends. -/
  | waiting (files : Tree) (resume : List UInt8 → Ending)

def State.ending (s : State) : Ending := ⟨s.status, s.diagnostics, s.files⟩

/-- The end of a script whose text is malformed. -/
def malformed (files : Tree) (name : List Char) : Ending :=
  ⟨2, Text.encode (name ++ ": Syntax error\n".toList), files⟩

/-- The state in which a script begins. -/
def State.begin (files : Tree) (name : List Char) (arguments : List (List Char))
    (input : Option (List UInt8)) : State :=
  ⟨files, name, arguments, [], input, [], 0, 1, ⟨.nowhere, .diagnostics, none⟩⟩

/-- Runs a script up to its end or to where it waits. -/
def runScript (files : Tree) (name text : List Char) (arguments : List (List Char))
    (input : Option (List UInt8)) : Except Tree Ending :=
  match script? text with
  | none => .ok (malformed files name)
  | some commands =>
    match runAll (text.length + 1) commands (.begin files name arguments input) with
    | .ok s => .ok s.ending
    | .error (.exited s) => .ok s.ending
    | .error (.waiting s) => .error s.files

/-- The course of a script. -/
def course (files : Tree) (name text : List Char) (arguments : List (List Char)) : Course :=
  match runScript files name text arguments none with
  | .ok e => .ended e
  | .error left =>
    .waiting left fun input =>
      match runScript files name text arguments (some input) with
      | .ok e => e
      | .error left => ⟨0, [], left⟩

end ShaderFilm.Shell
