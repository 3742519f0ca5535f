/-!
# Log events
-/

namespace ShaderFilm.Log

inductive Level where
  | info
  | warn
  deriving DecidableEq, Repr

def Level.name : Level → String
  | info => "INFO"
  | warn => "WARN"

/-- Something worth telling: a message, and fields with their values. -/
structure Event where
  level : Level
  message : String
  fields : List (String × String)
  deriving DecidableEq, Repr

end ShaderFilm.Log
