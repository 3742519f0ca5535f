import ShaderFilm.Glsl.Scope
import ShaderFilm.Shader.Uniform

/-!
# Use of the standard uniforms

Which standard uniforms the entry point of a program reads.  A uniform that is not read is never
written, so this is settled once, when the program is compiled.
-/

namespace ShaderFilm.Shader

open ShaderFilm.Glsl (Slot)

/-- A global variable of a compiled program: the slot it is bound to, if any, and whether the entry
point uses it. -/
structure GlobalUse where
  slot : Option Slot
  used : Bool
  deriving DecidableEq, Repr

/-- Which standard uniforms are used. -/
structure UniformUsage where
  time : Bool
  resolution : Bool
  mouse : Bool
  deriving DecidableEq, Repr

namespace UniformUsage

def none : UniformUsage := ⟨false, false, false⟩

def uses (usage : UniformUsage) : StandardUniform → Bool
  | .time => usage.time
  | .resolution => usage.resolution
  | .mouse => usage.mouse

def mark (usage : UniformUsage) : StandardUniform → UniformUsage
  | .time => { usage with time := true }
  | .resolution => { usage with resolution := true }
  | .mouse => { usage with mouse := true }

@[simp] theorem uses_mark (usage : UniformUsage) (u v : StandardUniform) :
    (usage.mark u).uses v = (usage.uses v || decide (v = u)) := by
  cases u <;> cases v <;> simp [mark, uses]

@[simp] theorem uses_none (u : StandardUniform) : none.uses u = false := by
  cases u <;> rfl

/-- The standard uniform whose binding a global variable takes. -/
def standardAt (g : GlobalUse) : Option StandardUniform :=
  match g.slot with
  | some slot =>
    if slot.group = 0 then StandardUniform.all.find? (·.binding == slot.binding) else Option.none
  | Option.none => Option.none

/-- Takes one more global variable into account. -/
def step (usage : UniformUsage) (g : GlobalUse) : UniformUsage :=
  match standardAt g with
  | some u => if g.used then usage.mark u else usage
  | Option.none => usage

/-- The standard uniforms that a program with these global variables uses. -/
def ofGlobals (globals : List GlobalUse) : UniformUsage := globals.foldl step none

end UniformUsage

end ShaderFilm.Shader
