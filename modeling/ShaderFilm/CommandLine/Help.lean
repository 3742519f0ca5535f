import ShaderFilm.CommandLine.Setting

/-!
# Help
-/

namespace ShaderFilm.CommandLine

def programName : String := "shadereel"

/-- What is printed for the version. -/
def versionText : String := programName ++ " 0.1.0\n"

/-- How an option is written, as far as its letter. -/
def shortColumn (s : Setting) : String :=
  match s.form.short with
  | some c => "-" ++ String.singleton c ++ ", "
  | none => "    "

/-- The width of the column of options. -/
def columnWidth : Nat := (Setting.options.map fun s => s.display.length).foldl max 0

/-- The purpose of an option, with the value that the environment gives it. -/
def purposeColumn (encoder : Option String) (s : Setting) : String :=
  if s = .ffmpeg then
    s.form.purpose ++ " [env: " ++ Setting.encoderVariable ++ "=" ++ encoder.getD "" ++ "]"
  else s.form.purpose

/-- The line of an option. -/
def optionLine (encoder : Option String) (s : Setting) : String :=
  let space := String.ofList (List.replicate (columnWidth - s.display.length + 2) ' ')
  "  " ++ shortColumn s ++ s.display ++ space ++ purposeColumn encoder s ++ "\n"

/-- What is printed for help. -/
def helpText (encoder : Option String) : String :=
  "Render a GLSL fragment shader to a video file\n\nUsage: " ++ programName ++
    " [OPTIONS] " ++ Setting.shader.display ++ "\n\nArguments:\n  " ++ Setting.shader.display ++
    "  " ++ Setting.shader.form.purpose ++ "\n\nOptions:\n" ++
    String.join (Setting.options.map (optionLine encoder))

end ShaderFilm.CommandLine
