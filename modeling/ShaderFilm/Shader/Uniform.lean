/-!
# The standard uniforms

The three values that the renderer feeds to every frame, with the interface block in which each of
them is declared.
-/

namespace ShaderFilm.Shader

/-- A uniform that every program is offered: the elapsed seconds, the frame size in pixels, and the
pointer position. -/
inductive StandardUniform where
  | time
  | resolution
  | mouse
  deriving DecidableEq, Repr

namespace StandardUniform

/-- The standard uniforms in binding order. -/
def all : List StandardUniform := [time, resolution, mouse]

/-- The name that a shader reads. -/
def name : StandardUniform → String
  | time => "u_time"
  | resolution => "u_resolution"
  | mouse => "u_mouse"

/-- The binding inside descriptor set 0. -/
def binding : StandardUniform → Nat
  | time => 0
  | resolution => 1
  | mouse => 2

/-- The type under which the uniform is declared. -/
def typeName : StandardUniform → String
  | time => "float"
  | resolution => "vec2"
  | mouse => "vec2"

/-- The name of the interface block around the uniform. -/
def blockName : StandardUniform → String
  | time => "ShadereelTime"
  | resolution => "ShadereelResolution"
  | mouse => "ShadereelMouse"

/-- The line that declares the uniform. -/
def declaration (u : StandardUniform) : String :=
  "layout(std140, set = 0, binding = " ++ toString u.binding ++ ") uniform " ++ u.blockName ++
    " \x7b " ++ u.typeName ++ " " ++ u.name ++ "; \x7d;"

theorem mem_all (u : StandardUniform) : u ∈ all := by
  cases u <;> decide

theorem binding_lt (u : StandardUniform) : u.binding < all.length := by
  cases u <;> decide

theorem binding_injective {u v : StandardUniform} (h : u.binding = v.binding) : u = v := by
  cases u <;> cases v <;> simp_all [binding]

theorem name_injective {u v : StandardUniform} (h : u.name = v.name) : u = v := by
  cases u <;> cases v <;> simp_all [name]

end StandardUniform

end ShaderFilm.Shader
