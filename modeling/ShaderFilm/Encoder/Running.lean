import ShaderFilm.Encoder.Config
import ShaderFilm.Encoder.Host
import ShaderFilm.Log.Event
import ShaderFilm.Render.Pixels
import ShaderFilm.Text.Utf8

/-!
# Running encoders

An encoder that was started takes frames until it is finished, aborted or dropped.  It is always
waited for in the end, and it is not killed once it has been waited for.
-/

namespace ShaderFilm.Encoder

open ShaderFilm.Files (Path Tree)
open ShaderFilm.Render (Pixels)

/-- What is done to a program or to its output. -/
inductive Deed where
  | start (program : String) (arguments : List String)
  | send (bytes : List UInt8)
  | closeInput
  | wait
  | kill
  | remove (path : Path)
  deriving DecidableEq, Repr

/-- An encoder that was started. -/
structure Running (σ : Type) where
  config : Config
  program : σ
  inputOpen : Bool
  /-- Whether the diagnostics have not been taken yet. -/
  diagnosticsLeft : Bool
  framesWritten : Nat
  /-- Whether the program has been waited for. -/
  reaped : Bool
  /-- The file tree as far as it is known. -/
  files : Tree
  deeds : List Deed

namespace Running

variable {σ : Type}

/-- The event that tells of the start of an encoder. -/
def startEvent (c : Config) : Log.Event :=
  ⟨.info, "encoder started", [("output", c.output.toString), ("profile", c.profile.text)]⟩

/-- Starts an encoder.  The directory of the output is made first. -/
def spawn (host : Host σ) (c : Config) (files : Tree) : Except Fault (Running σ) × Tree :=
  match c.validate with
  | .error fault => (.error (.invalidConfig fault), files)
  | .ok () =>
    match files.makeParent c.output with
    | (some (path, fault), files) => (.error (.output path fault), files)
    | (none, files) =>
      match host.launch files c.program c.arguments with
      | .error fault => (.error (.spawn c.program fault), files)
      | .ok program =>
        (.ok ⟨c, program, true, true, 0, false, files, [.start c.program c.arguments]⟩, files)

/-- Closes the input if it is open. -/
def closeInput (r : Running σ) : Running σ :=
  if r.inputOpen then { r with inputOpen := false, deeds := r.deeds ++ [.closeInput] } else r

/-- The text of diagnostics. -/
def diagnosticsText (bytes : List UInt8) : String :=
  String.ofList (Text.trim (Text.decodeLeniently bytes))

/-- Closes the input and waits for the program.  The diagnostics are handed out once; the exit
status stays the same however often it is asked for. -/
def reap (host : Host σ) (r : Running σ) : ExitStatus × String × Running σ :=
  let ending := host.ending r.program
  let r := r.closeInput
  let text := if r.diagnosticsLeft then diagnosticsText ending.diagnostics else ""
  (ending.status, text,
    { r with
      diagnosticsLeft := false
      reaped := true
      files := if r.reaped then r.files else ending.files
      deeds := if r.reaped then r.deeds else r.deeds ++ [.wait] })

/-- Stops the program unless it has been waited for. -/
def kill (host : Host σ) (r : Running σ) : Running σ :=
  if r.reaped then r
  else
    let r := r.closeInput
    { r with
      diagnosticsLeft := false
      reaped := true
      files := host.killed r.program
      deeds := r.deeds ++ [.kill, .wait] }

/-- Writes a frame to the program.  Where the program has quit, its exit status tells why. -/
def writeFrame (host : Host σ) (r : Running σ) (p : Pixels) : Option Fault × Running σ :=
  if p.size ≠ (r.config.width, r.config.height) then
    (some (.invalidConfig (.frameSize p.width p.height r.config.width r.config.height)), r)
  else if !r.inputOpen then (some (.write r.framesWritten .inputClosed), r)
  else
    match host.write r.program p.bytes with
    | (.whole, program) =>
      (none, { r with
        program
        framesWritten := r.framesWritten + 1
        deeds := r.deeds ++ [.send p.bytes] })
    | (.part count fault, program) =>
      let r := { r with program, deeds := r.deeds ++ [.send (p.bytes.take count)] }
      if fault = .brokenPipe then
        let (status, text, after) := r.reap host
        if status = 0 then (some (.write r.framesWritten fault), after)
        else (some (.failure status text), after)
      else (some (.write r.framesWritten fault), r)

/-- The event that tells what an encoder said. -/
def diagnosticsEvent (text : String) : Log.Event :=
  ⟨.warn, "encoder reported diagnostics", [("stderr", text)]⟩

/-- Ends the input and waits until the output is complete. -/
def finish (host : Host σ) (r : Running σ) : Option Fault × List Log.Event × Running σ :=
  let (status, text, after) := r.reap host
  if status ≠ 0 then (some (.failure status text), [], after)
  else (none, if text.isEmpty then [] else [diagnosticsEvent text], after)

end Running

end ShaderFilm.Encoder
