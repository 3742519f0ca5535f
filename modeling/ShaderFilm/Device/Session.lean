import ShaderFilm.Device.Adapter
import ShaderFilm.Device.Request
import ShaderFilm.Files.Tree
import ShaderFilm.Render.Rows
import ShaderFilm.Render.Sequence
import ShaderFilm.Shader.Compiled

/-!
# Render sessions

A session has one adapter, one compiled program and one target, and draws the frames of one job.
The uniforms that stay the same are written when it opens and the time before every draw; a uniform
that the program does not use is never written.
-/

namespace ShaderFilm.Device

open ShaderFilm.Files (Path Tree)
open ShaderFilm.Render (Fault Job Pixels)
open ShaderFilm.Shader (Compiled StandardUniform UniformUsage)

/-- An open session. -/
structure Session where
  adapter : Adapter
  program : Compiled
  width : UInt32
  height : UInt32
  /-- How far apart the rows of the staging buffer begin. -/
  padded : UInt32
  buffers : Buffers
  /-- How many draws were submitted to the adapter. -/
  submitted : Nat
  /-- Whether the staging buffer is still waited for, because waiting failed. -/
  pending : Bool
  /-- What was asked of the device. -/
  requests : List Request

/-! ### Uniforms -/

/-- Buffers and requests after a uniform is written, which is not done unless it is used. -/
def writeUniform (usage : UniformUsage) (u : StandardUniform) (slot : Slot)
    (state : Buffers × List Request) : Buffers × List Request :=
  if usage.uses u then
    (state.1.write u slot.bytes, state.2 ++ [.write (state.1.target u).label slot.bytes])
  else state

/-- Writes the uniforms that stay the same. -/
def writeConstants (usage : UniformUsage) (width height : UInt32)
    (state : Buffers × List Request) : Buffers × List Request :=
  writeUniform usage .mouse (.pair restingPointer.1 restingPointer.2)
    (writeUniform usage .resolution (.pair width.toFloat32 height.toFloat32) state)

/-- Writes the time. -/
def writeTime (usage : UniformUsage) (time : Float32) (state : Buffers × List Request) :
    Buffers × List Request :=
  writeUniform usage .time (.scalar time) state

namespace Session

/-! ### Opening -/

/-- What is said about a limit that is too large for a device. -/
def limitMessage (limit : Nat) : String :=
  "Limit 'max_texture_dimension_2d' value " ++ toString limit ++ " is better than allowed " ++
    toString Adapter.greatestLimit

/-- The number of bytes in a row of the target, if it fits a 32-bit word. -/
def rowBytes? (width : UInt32) : Option UInt32 :=
  let length := Render.rowLength width
  if length < UInt32.size then some (UInt32.ofNat length) else none

/-- Refuses a target without pixels. -/
def checkSize (width height : UInt32) : Except Fault Unit :=
  if width = 0 ∨ height = 0 then .error (.invalidJob (.emptyTarget width height)) else .ok ()

/-- Opens a session of the given size on an adapter, if there is one, and answers with what was
asked of the device as well. -/
def «open» (adapter : Option Adapter) (options : Options) (program : Compiled)
    (width height : UInt32) (submitted : Nat) : Except Fault Session × List Request :=
  match checkSize width height with
  | .error fault => (.error fault, [])
  | .ok () =>
    let asked : List Request := [.adapter options]
    match adapter with
    | none => (.error .noAdapter, asked)
    | some adapter =>
      if adapter.maxDimension < width.toNat ∨ adapter.maxDimension < height.toNat then
        (.error (.invalidJob (.targetTooLarge adapter.maxDimension width height)), asked)
      else if Adapter.greatestLimit < adapter.maxDimension then
        (.error (.device (.creation (limitMessage adapter.maxDimension))), asked)
      else
        let asked := asked ++ [.pipeline quadStride]
        if !program.fitsPipeline then (.error (.rejected program.program), asked)
        else
          let asked := asked ++ [.vertices quadBytes] ++
            Buffers.fresh.made.toList.map (fun b => .buffer b.label Slot.size)
          let (buffers, asked) := writeConstants program.usage width height (.fresh, asked)
          let asked := asked ++ [.target width height]
          match rowBytes? width with
          | none => (.error (.invalidJob .rowTooLong), asked)
          | some rowBytes =>
            match Render.alignUp? .checked rowBytes rowAlignment with
            | none => (.error (.readback .overflow), asked)
            | some padded =>
              let asked := asked ++ [.buffer stagingLabel (padded.toNat * height.toNat)]
              (.ok ⟨adapter, program, width, height, padded, buffers, submitted, false, asked⟩,
                asked)

/-- Opens a session for a job. -/
def openFor (adapter : Option Adapter) (options : Options) (program : Compiled) (job : Job)
    (submitted : Nat) : Except Fault Session × List Request :=
  match job.validate with
  | .error fault => (.error (.invalidJob fault), [])
  | .ok () => «open» adapter options program job.width job.height submitted

/-! ### Drawing -/

/-- What is said about a copy into a buffer that is still waited for. -/
def pendingMessage : String :=
  "Validation Error\n\nCaused by:\n  In Queue::submit\n    Buffer with '" ++ stagingLabel ++
    "' label is still mapped\n"

/-- The image in the staging buffer. -/
def readStaging (s : Session) : Except Fault Pixels :=
  let mapped := s.adapter.staging s.buffers s.width s.height s.padded.toNat
  match Render.tightRows? (Render.rowLength s.width) s.padded.toNat s.height.toNat mapped with
  | none => .error (.readback .missingRows)
  | some rows =>
    match Render.flipRows s.width s.height rows with
    | .ok pixels => .ok pixels
    | .error fault => .error (.readback fault)

/-- The session with a draw at a time submitted. -/
def submit (s : Session) (time : Float32) : Session :=
  let (buffers, requests) := writeTime s.program.usage time (s.buffers, s.requests)
  { s with
    buffers
    submitted := s.submitted + 1
    requests := requests ++
      [.clear, .draw quad.length buffers, .copy s.width s.height s.padded] }

/-- Draws the frame at a time and waits for its image. -/
def draw (s : Session) (time : Float32) : Except Fault Pixels × Session :=
  let after := s.submit time
  if s.pending then (.error (.device (.invalidFrame time pendingMessage)), after)
  else
    match s.adapter.invalid s.submitted with
    | some reason => (.error (.device (.invalidFrame time reason)), after)
    | none =>
      match s.adapter.pollFault s.submitted with
      | some reason => (.error (.readback (.poll reason)), { after with pending := true })
      | none => (after.readStaging, after)

/-- The renderer that a session is. -/
def renderer : Render.Renderer Session where
  dimensions s := (s.width, s.height)
  draw := draw

end Session

/-! ### Stills -/

/-- Writes an image into a file.  Bytes that are too few are refused first, though no image has so
few; the file is made before an image without pixels is refused. -/
def savePicture (p : Pixels) (path : Path) (files : Tree) : Option Fault × Tree :=
  if p.bytes.length < Render.rowLength p.width * p.height.toNat then
    (some (.unsaved path "pixel buffer does not match its dimensions"), files)
  else
    match files.write path (.picture p.width p.height p.bytes) with
    | .error fault => (some (.unsaved path fault.message), files)
    | .ok saved =>
      let empty := (files.write path (.bytes [])).toOption.getD files
      if p.width = 0 then (some (.unsaved path "Zero width not allowed"), empty)
      else if p.height = 0 then (some (.unsaved path "Zero height not allowed"), empty)
      else (none, saved)

/-- Draws the frame at a time and writes it into a file. -/
def Session.exportStill (s : Session) (time : Float32) (path : Path) (files : Tree) :
    Option Fault × Session × Tree :=
  match s.draw time with
  | (.error fault, s) => (some fault, s, files)
  | (.ok pixels, s) =>
    let (fault, files) := savePicture pixels path files
    (fault, s, files)

end ShaderFilm.Device
