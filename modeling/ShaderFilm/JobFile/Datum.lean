import ShaderFilm.Number.Text
import ShaderFilm.Text.Quoted
import ShaderFilm.Toml.Item

/-!
# Data that a job description is read from

A description comes from a TOML document or from plain JSON data.  Both are data of the same few
kinds; a `Dialect` says in what the two differ.
-/

namespace ShaderFilm.JobFile

/-- A piece of data. -/
inductive Datum where
  | null
  | boolean (b : Bool)
  | integer (n : Int)
  | float (x : Float)
  | string (s : String)
  /-- A date or a time; it counts as a mapping. -/
  | moment
  | sequence (items : List Datum)
  | mapping (entries : List (String × Datum))
  deriving Inhabited

namespace Datum

mutual

/-- The data of an item of a document. -/
def ofItem : Toml.Item → Datum
  | .string s => string s
  | .integer n => integer n
  | .float x => float x
  | .boolean b => boolean b
  | .moment => moment
  | .array items => sequence (ofItems items)
  | .table _ entries => mapping (ofEntries entries)
  | .tables elements => sequence (ofTables elements)

def ofItems : List Toml.Item → List Datum
  | [] => []
  | item :: rest => ofItem item :: ofItems rest

def ofEntries : List (String × Toml.Item) → List (String × Datum)
  | [] => []
  | (key, item) :: rest => (key, ofItem item) :: ofEntries rest

def ofTables : List (List (String × Toml.Item)) → List Datum
  | [] => []
  | entries :: rest => mapping (ofEntries entries) :: ofTables rest

end

end Datum

/-- Where data come from. -/
inductive Dialect where
  | toml
  | json
  deriving DecidableEq, Repr

/-- How messages write floats. -/
def Dialect.floats : Dialect → Number.Style
  | toml => .fractional
  | json => .compact

/-- How messages name a piece of data. -/
def Datum.describe (dialect : Dialect) : Datum → String
  | null => "null"
  | boolean b => "boolean `" ++ (if b then "true" else "false") ++ "`"
  | integer n => "integer `" ++ toString n ++ "`"
  | float x => "floating point `" ++ Number.write dialect.floats x ++ "`"
  | string s => "string " ++ String.ofList (Text.quoted s.toList)
  | moment => "map"
  | sequence _ => "sequence"
  | mapping _ => "map"

end ShaderFilm.JobFile
