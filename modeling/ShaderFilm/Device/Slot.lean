import ShaderFilm.Shader.Usage

/-!
# Uniform slots

A standard uniform is handed to the device in a slot of four 32-bit floats, of which those it does
not need are zero.  Each has a buffer of its own.  A write picks the buffer by the number of the
binding; a program finds it through the bindings themselves.
-/

namespace ShaderFilm.Device

open ShaderFilm.Shader

/-- The bytes of a word, the lowest first. -/
def wordBytes (n : UInt32) : List UInt8 :=
  [n.toUInt8, (n >>> 8).toUInt8, (n >>> 16).toUInt8, (n >>> 24).toUInt8]

/-- The value of a uniform. -/
structure Slot where
  first : Float32
  second : Float32
  third : Float32
  fourth : Float32

namespace Slot

/-- How many bytes a slot has. -/
def size : Nat := 16

/-- A slot with one number. -/
def scalar (x : Float32) : Slot := ⟨x, 0.0, 0.0, 0.0⟩

/-- A slot with two numbers. -/
def pair (x y : Float32) : Slot := ⟨x, y, 0.0, 0.0⟩

/-- The bytes of a slot. -/
def bytes (s : Slot) : List UInt8 :=
  [s.first, s.second, s.third, s.fourth].flatMap fun x => wordBytes x.toBits

@[simp] theorem length_bytes (s : Slot) : s.bytes.length = size := by
  simp [bytes, wordBytes, size]

theorem bytes_zero : (pair 0.0 0.0).bytes = List.replicate size 0 := by
  decide

end Slot

/-- Where the pointer is said to be; nothing moves it. -/
def restingPointer : Float32 × Float32 := (0.0, 0.0)

/-- A buffer of the device, which has room for a slot. -/
structure Buffer where
  label : String
  bytes : List UInt8
  deriving DecidableEq, Repr

/-- The buffers of the standard uniforms. -/
structure Buffers where
  /-- The buffers in the order in which they were made. -/
  made : Vector Buffer StandardUniform.all.length
  /-- Which buffer is bound where. -/
  bound : List (Nat × Fin StandardUniform.all.length)
  deriving DecidableEq, Repr

namespace Buffers

/-- Buffers that were never written, one for each uniform, bound where the uniform has its
binding. -/
def fresh : Buffers where
  made := Vector.ofFn fun i => ⟨(StandardUniform.all.get i).name, List.replicate Slot.size 0⟩
  bound := (List.finRange _).map fun i => ((StandardUniform.all.get i).binding, i)

/-- The number of the buffer that is written for a uniform.  Buffers are made in the order of the
bindings. -/
def position (u : StandardUniform) : Fin StandardUniform.all.length := ⟨u.binding, u.binding_lt⟩

/-- The buffer that is written for a uniform. -/
def target (b : Buffers) (u : StandardUniform) : Buffer := b.made[position u]

/-- The buffers with that of a uniform written. -/
def write (b : Buffers) (u : StandardUniform) (bytes : List UInt8) : Buffers :=
  { b with made := b.made.set (position u) { b.target u with bytes } }

/-- What the buffer holds that is bound under a number. -/
def held? (b : Buffers) (binding : Nat) : Option (List UInt8) :=
  (b.bound.lookup binding).map fun i => b.made[i].bytes

/-- All bytes in the order of the bindings. -/
def bytes (b : Buffers) : List UInt8 :=
  StandardUniform.all.flatMap fun u => (b.held? u.binding).getD []

end Buffers

end ShaderFilm.Device
