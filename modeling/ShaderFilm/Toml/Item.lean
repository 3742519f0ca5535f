/-!
# Items of a document

A document is a table of named items in the order in which they first appear.  Tables remember how
they came about, for that decides who may add to them.
-/

namespace ShaderFilm.Toml

/-- How a table came about. -/
inductive Form where
  /-- Written in braces. -/
  | inline
  /-- Written under a header of its own. -/
  | header
  /-- Made because the header of another table passes through it. -/
  | implied
  /-- Made because a dotted key passes through it. -/
  | dotted
  deriving DecidableEq, Repr

/-- An item. -/
inductive Item where
  | string (s : String)
  | integer (n : Int)
  | float (x : Float)
  | boolean (b : Bool)
  /-- A date, a time, or both. -/
  | moment
  | array (items : List Item)
  | table (form : Form) (entries : List (String × Item))
  /-- Tables written under repeated headers. -/
  | tables (elements : List (List (String × Item)))
  deriving Inhabited

/-- The items of a table. -/
abbrev Entries := List (String × Item)

namespace Entries

def replace (entries : Entries) (key : String) (item : Item) : Entries :=
  entries.map fun (k, i) => if k = key then (k, item) else (k, i)

def erase (entries : Entries) (key : String) : Entries := entries.filter (·.1 ≠ key)

/-- Adds an item whose key is new; none if it is not. -/
def insert? (entries : Entries) (key : String) (item : Item) : Option Entries :=
  match entries.lookup key with
  | none => some (entries ++ [(key, item)])
  | some _ => none

/-- Changes the table that a path leads to, making the tables on the way.  A dotted key does not
enter tables that are defined elsewhere, and nothing enters a table in braces except the keys inside
those braces, which `within` stands for. -/
def change (dotted within : Bool) (f : Form → Entries → Option Entries) :
    List String → Form → Entries → Option Entries
  | [], form, entries => f form entries
  | key :: path, _, entries =>
    match entries.lookup key with
    | none => do
      let form := if dotted then Form.dotted else .implied
      let made ← change dotted within f path form []
      some (entries ++ [(key, .table form made)])
    | some (.table form inner) => do
      if form = .inline then none
      if dotted ∧ form = .header then none
      let changed ← change dotted within f path form inner
      some (entries.replace key (.table form changed))
    | some (.tables elements) => do
      if within then none
      let newest ← elements.getLast?
      let changed ← change dotted within f path .header newest
      some (entries.replace key (.tables (elements.dropLast ++ [changed])))
    | some _ => none

/-- Adds the item of a key with the given path in front; the path has to lead to a table that dotted
keys made, and a key without a path may not. -/
def put? (entries : Entries) (path : List String) (key : String) (item : Item) (form : Form) :
    Option Entries :=
  change true (form = .inline) (fun form inner =>
    if (form = .dotted) = path.isEmpty then none else inner.insert? key item) path form entries

end Entries

end ShaderFilm.Toml
