import ShaderFilm.JobFile.Mismatch
import ShaderFilm.Number.Decimal

/-!
# Reading data

How numbers, texts, choices, spans and records are read off data.  A record is given by a `Shape`;
it may be written as a mapping, whose entries are taken in order, or as the sequence of its fields.
-/

namespace ShaderFilm.JobFile

/-- What is read off data, or why it cannot be. -/
abbrev Decoded := Except Mismatch

namespace Datum

/-- An unsigned 32-bit number. -/
def word : Datum → Decoded UInt32
  | integer n =>
    if 0 ≤ n ∧ n.toNat < UInt32.size then .ok (UInt32.ofNat n.toNat)
    else .error (.invalidValue (integer n) "u32")
  | d => .error (.invalidType d "u32")

/-- The float nearest to a whole number. -/
def nearestFloat (n : Int) : Float :=
  Number.withSign (n < 0) (Number.Decimal.toFloat ⟨n.natAbs, 0⟩)

/-- A float; whole numbers will do. -/
def real : Datum → Decoded Float
  | float x => .ok x
  | integer n => .ok (nearestFloat n)
  | d => .error (.invalidType d "f64")

/-- A text, called `expected` where there is none. -/
def text (expected : String) : Datum → Decoded String
  | string s => .ok s
  | d => .error (.invalidType d expected)

/-- A value that may be left out. -/
def optional {α : Type} (read : Datum → Decoded α) : Datum → Decoded (Option α)
  | null => .ok none
  | d => (read d).map some

/-! ### Spans -/

/-- The span that a text writes: a number of seconds, or numbers with units. -/
def spanOfText (s : String) : Decoded Time.Span :=
  match Number.readNumber? (Text.trim s.toList) with
  | some x =>
    match Time.Span.ofFloat? x with
    | some span => .ok span
    | none => .error .durationOutOfRange
  | none =>
    match Time.Span.ofText s.toList with
    | .ok span => .ok span
    | .error fault => .error (.malformedDuration s fault)

/-- A span that may be left out. -/
def span : Datum → Decoded (Option Time.Span)
  | null => .ok none
  | integer n =>
    if n < 0 then .error .negativeDuration
    else
      match Time.Span.ofParts? n.toNat 0 with
      | some span => .ok (some span)
      | none => .error .durationOutOfRange
  | float x =>
    match Time.Span.ofFloat? x with
    | some span => .ok (some span)
    | none => .error .durationOutOfRange
  | string s => (spanOfText s).map some
  | d => .error (.invalidType d "a duration as number of seconds or human-readable string")

/-! ### Choices -/

/-- The choice that a name stands for. -/
def named {α : Type} (choices : List (String × α)) (name : String) : Decoded α :=
  match choices.lookup name with
  | some a => .ok a
  | none => .error (.unknownVariant name (choices.map (·.1)))

def isEmptyCollection : Datum → Bool
  | sequence items => items.isEmpty
  | mapping entries => entries.isEmpty
  | _ => false

/-- A choice, given by its name or by a mapping from its name to nothing. -/
def choice {α : Type} (dialect : Dialect) (choices : List (String × α)) : Datum → Decoded α
  | string s => named choices s
  | mapping entries =>
    match dialect, entries with
    | .toml, [(name, content)] => do
      let a ← named choices name
      if isEmptyCollection content then return a
      throw .noVariant
    | .toml, _ => .error .noVariant
    | .json, [(name, content)] => do
      let a ← named choices name
      match content with
      | null => return a
      | d => throw (.invalidType d "unit")
    | .json, entries => .error (.invalidValue (mapping entries) "map with a single key")
  | d =>
    match dialect with
    | .toml => .error .noVariant
    | .json => .error (.invalidType d "string or map")

end Datum

/-! ### Records -/

/-- How a record is read. -/
structure Shape (α : Type) where
  /-- The name of the record in messages. -/
  name : String
  /-- The names of its fields in order. -/
  fields : List String
  /-- The fields that a sequence may end before. -/
  trailing : List String
  /-- The fields that a mapping may not lack. -/
  required : List String
  /-- The record before any field is read. -/
  start : α
  /-- The record with one of its fields read. -/
  put : Dialect → String → Datum → α → Decoded α

namespace Shape

variable {α : Type}

/-- Takes one entry of a mapping into account. -/
def enter (shape : Shape α) (dialect : Dialect) (a : α) (entry : String × Datum) : Decoded α :=
  if shape.fields.contains entry.1 then shape.put dialect entry.1 entry.2 a
  else .error (.unknownField entry.1 shape.fields)

/-- The record that a mapping writes.  What is missing is noticed last. -/
def ofMapping (shape : Shape α) (dialect : Dialect) (entries : List (String × Datum)) :
    Decoded α := do
  let a ← entries.foldlM (shape.enter dialect) shape.start
  match shape.required.find? fun name => !(entries.map (·.1)).contains name with
  | some name => throw (.missingField name)
  | none => return a

/-- Fills the fields in order, of which `count` are filled already, and answers with the data that
are left as well. -/
def fill (shape : Shape α) (dialect : Dialect) :
    (count : Nat) → (fields : List String) → List Datum → α → Decoded (α × List Datum)
  | _, [], rest, a => .ok (a, rest)
  | count, name :: fields, [], a =>
    if shape.trailing.contains name then shape.fill dialect (count + 1) fields [] a
    else .error (.tooShort count shape.name shape.fields.length)
  | count, name :: fields, d :: rest, a => do
    shape.fill dialect (count + 1) fields rest (← shape.put dialect name d a)

/-- The record that a sequence of its fields writes.  More data than fields do no harm in TOML. -/
def ofSequence (shape : Shape α) (dialect : Dialect) (items : List Datum) : Decoded α := do
  let (a, rest) ← shape.fill dialect 0 shape.fields items shape.start
  if dialect = .json ∧ !rest.isEmpty then throw (.tooLong items.length)
  return a

/-- The record that a piece of data writes. -/
def read (shape : Shape α) (dialect : Dialect) : Datum → Decoded α
  | .mapping entries => shape.ofMapping dialect entries
  | .sequence items => shape.ofSequence dialect items
  | .moment => .error (.unknownField "$__toml_private_datetime" shape.fields)
  | d => .error (.invalidType d ("struct " ++ shape.name))

end Shape

end ShaderFilm.JobFile
