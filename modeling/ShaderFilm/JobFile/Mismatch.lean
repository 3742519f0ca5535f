import ShaderFilm.JobFile.Datum
import ShaderFilm.Time.SpanText

/-!
# Data that fit no description

Why data cannot be read as a job description, and what is said about it.
-/

namespace ShaderFilm.JobFile

/-- Why data fit no description. -/
inductive Mismatch where
  | unknownField (name : String) (known : List String)
  | missingField (name : String)
  | unknownVariant (name : String) (known : List String)
  | invalidType (found : Datum) (expected : String)
  | invalidValue (found : Datum) (expected : String)
  /-- A sequence that ends too early. -/
  | tooShort (length : Nat) (record : String) (fields : Nat)
  /-- A sequence that goes on too long. -/
  | tooLong (length : Nat)
  /-- A table that stands where the name of a choice is expected and is none. -/
  | noVariant
  | negativeDuration
  /-- A number of seconds that is no span. -/
  | durationOutOfRange
  | malformedDuration (text : String) (fault : Time.SpanFault)

namespace Mismatch

/-- Names that are expected, each between backquotes. -/
def alternatives : List String → String
  | [] => "there are no fields"
  | [a] => "`" ++ a ++ "`"
  | [a, b] => "`" ++ a ++ "` or `" ++ b ++ "`"
  | names => "one of " ++ ", ".intercalate (names.map fun n => "`" ++ n ++ "`")

/-- What is said about a mismatch; none if the words are left to the reader of documents. -/
def message (dialect : Dialect) : Mismatch → Option String
  | unknownField name known =>
    some ("unknown field `" ++ name ++ "`, expected " ++ alternatives known)
  | missingField name => some ("missing field `" ++ name ++ "`")
  | unknownVariant name known =>
    some ("unknown variant `" ++ name ++ "`, expected " ++ alternatives known)
  | invalidType found expected =>
    some ("invalid type: " ++ found.describe dialect ++ ", expected " ++ expected)
  | invalidValue found expected =>
    some ("invalid value: " ++ found.describe dialect ++ ", expected " ++ expected)
  | tooShort length record fields =>
    some ("invalid length " ++ toString length ++ ", expected struct " ++ record ++ " with " ++
      toString fields ++ (if fields = 1 then " element" else " elements"))
  | tooLong length =>
    some ("invalid length " ++ toString length ++ ", expected fewer elements in array")
  | noVariant => none
  | negativeDuration => some "duration must be non-negative"
  | durationOutOfRange => some "duration must be a non-negative, finite number of seconds"
  | malformedDuration text fault =>
    some ("invalid duration '" ++ text ++ "': " ++ fault.message)

end Mismatch

end ShaderFilm.JobFile
