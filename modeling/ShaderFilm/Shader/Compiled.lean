import ShaderFilm.Glsl.Program
import ShaderFilm.Shader.Canonical
import ShaderFilm.Shader.Usage

/-!
# Compiled programs

A canonical program that was examined and found to be a fragment shader.  No device is needed for
this, so a broken shader is refused before one is opened.
-/

namespace ShaderFilm.Shader

open ShaderFilm.Glsl (Interface Resource Varying)

/-- A canonical program together with its interface. -/
structure Compiled where
  program : Canonical
  interface : Interface

namespace Compiled

/-- The global variables that are bound to slots. -/
def globals (c : Compiled) : List GlobalUse :=
  c.interface.resources.map fun (r, used) => ⟨some r.slot, used⟩

/-- The standard uniforms that the program uses. -/
def usage (c : Compiled) : UniformUsage := UniformUsage.ofGlobals c.globals

/-- How a compiled program shows itself: by the uniforms that it uses. -/
def summary (c : Compiled) : String :=
  "CompiledProgram \x7b usage: UniformUsage \x7b time: " ++ toString (c.usage.uses .time) ++
    ", resolution: " ++ toString (c.usage.uses .resolution) ++ ", mouse: " ++
    toString (c.usage.uses .mouse) ++ " \x7d, .. \x7d"

/-- Whether the pipeline provides a resource: it has one uniform buffer for each standard uniform
and nothing else. -/
def provides (r : Resource) : Bool :=
  r.slot.group == 0 && r.kind == .uniform &&
    StandardUniform.all.any fun u => u.binding == r.slot.binding

/-- Whether the colour target takes an output.  Only location 0 has a target, of four
floating-point components. -/
def targetTakes (p : Varying) : Bool := p.location != 0 || p.ty == .vector 4 .float

/-- Whether the program fits the pipeline: the vertex stage passes nothing on, every resource in use
is provided, and the outputs suit the target. -/
def fitsPipeline (c : Compiled) : Bool :=
  c.interface.inputs.isEmpty && c.interface.resources.all (fun (r, used) => !used || provides r) &&
    c.interface.outputs.all targetTakes

end Compiled

/-- Compiles a canonical program. -/
def compile (p : Canonical) : Except Glsl.Fault Compiled := do
  return ⟨p, ← Interface.ofText p.text⟩

end ShaderFilm.Shader
