/-!
# Faults of a shader program

Why a program is refused.  Every fault is final: the first one found ends the examination.
-/

namespace ShaderFilm.Glsl

/-- Why a program is no valid fragment shader. -/
inductive Fault where
  /-- A character that belongs to no token. -/
  | strayCharacter (c : Char)
  /-- A block comment that is not closed. -/
  | openComment
  /-- A directive that is unknown or malformed. -/
  | badDirective (name : String)
  /-- A conditional directive without its partner. -/
  | unbalanced
  /-- An `#error` in active text. -/
  | requested
  /-- A macro that is called or defined in a wrong way. -/
  | badDefinition (name : String)
  /-- A token that cannot stand where it stands; none at the end of the text. -/
  | unexpected (spelling : Option String)
  /-- A name without a declaration. -/
  | undeclared (name : String)
  /-- A name declared twice. -/
  | redeclared (name : String)
  /-- A call that no function, or more than one, is fit for. -/
  | noFunction (name : String)
  /-- A qualifier that does not fit its declaration. -/
  | misplacedQualifier
  /-- A type that cannot be used in this place. -/
  | badType
  /-- Operands whose types do not go together. -/
  | mismatch
  /-- An assignment to something that cannot be written. -/
  | notWritable
  /-- An expression that has to be constant and is not. -/
  | notConstant
  /-- A jump that has no target here. -/
  | strayJump
  /-- Two interface variables in one place. -/
  | collision
  /-- The program has no entry point. -/
  | noEntry
  /-- The text is nested or expanded beyond what is examined. -/
  | tooDeep
  deriving Repr

end ShaderFilm.Glsl
