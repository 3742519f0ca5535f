import ShaderFilm.Files.Tree
import ShaderFilm.Render.Fault

/-!
# Shader sources
-/

namespace ShaderFilm.Render

open ShaderFilm.Files (Path Tree)

/-- The text of the shader at a path.  What is no file is reported as not found. -/
def loadShader (files : Tree) (path : Path) : Except Fault (List Char) :=
  if !files.isFile path then .error (.shaderNotFound path)
  else
    match files.readText path with
    | .ok text => .ok text
    | .error fault => .error (.unreadableShader path fault)

end ShaderFilm.Render
