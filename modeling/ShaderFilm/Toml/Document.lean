import ShaderFilm.Toml.Item
import ShaderFilm.Toml.Scalar

/-!
# Whole documents

Values, lines and headers.  The whole document is read before anything in it is looked at, so a
malformed line anywhere refuses it.
-/

namespace ShaderFilm.Toml

/-! ### Values -/

/-- Skips blanks, line breaks and comments between the values of an array. -/
def skipFiller : (fuel : Nat) → List Char → List Char
  | 0, s => s
  | fuel + 1, s =>
    match skipComment (skipSpaces s) with
    | [] => []
    | rest =>
      match takeBreak? rest with
      | some rest => skipFiller fuel rest
      | none => rest

mutual

/-- A value inside `depth` arrays and braces. -/
def value? : (fuel : Nat) → (depth : Nat) → List Char → Option (Item × List Char)
  | 0, _, _ => none
  | fuel + 1, depth, s =>
    match s with
    | [] => none
    | '"' :: _ => (string? s).map fun (v, rest) => (.string v, rest)
    | '\'' :: _ => (string? s).map fun (v, rest) => (.string v, rest)
    | '[' :: rest =>
      if depthLimit ≤ depth + 1 then none
      else (elements? fuel (depth + 1) rest).map fun (items, rest) => (.array items, rest)
    | '\x7b' :: rest =>
      if depthLimit ≤ depth + 1 then none
      else
        match skipSpaces rest with
        | '\x7d' :: rest => some (.table .inline [], rest)
        | rest =>
          (pairs? fuel (depth + 1) [] rest).map fun (entries, rest) =>
            (.table .inline entries, rest)
    | 't' :: 'r' :: 'u' :: 'e' :: rest => some (.boolean true, rest)
    | 'f' :: 'a' :: 'l' :: 's' :: 'e' :: rest => some (.boolean false, rest)
    | _ =>
      if startsMoment s then (moment? s).map fun rest => (.moment, rest)
      else
        match float? s with
        | some (x, rest) => some (.float x, rest)
        | none => (integer? s).map fun (n, rest) => (.integer n, rest)

/-- The elements of an array, up to its closing bracket, which is taken. -/
def elements? : (fuel : Nat) → (depth : Nat) → List Char → Option (List Item × List Char)
  | 0, _, _ => none
  | fuel + 1, depth, s =>
    match skipFiller s.length s with
    | ']' :: rest => some ([], rest)
    | s => do
      let (item, rest) ← value? fuel depth s
      match skipFiller rest.length rest with
      | ',' :: rest => do
        let (items, rest) ← elements? fuel depth rest
        some (item :: items, rest)
      | ']' :: rest => some ([item], rest)
      | _ => none

/-- The pairs of a table in braces, one at least, up to its closing brace, which is taken. -/
def pairs? : (fuel : Nat) → (depth : Nat) → (entries : Entries) → List Char →
    Option (Entries × List Char)
  | 0, _, _, _ => none
  | fuel + 1, depth, entries, s => do
    let ((path, key), rest) ← key? s
    let rest ← behind? '=' rest
    let (item, rest) ← value? fuel depth (skipSpaces rest)
    let entries ← entries.put? path key item .inline
    match skipSpaces rest with
    | ',' :: rest => pairs? fuel depth entries rest
    | '\x7d' :: rest => some (entries, rest)
    | _ => none

end

/-! ### Lines and headers -/

/-- The state between two lines: the finished tables, and the table that is being filled with the
path of its header. -/
structure Draft where
  root : Entries
  current : Entries
  path : List String
  /-- Whether the present table is one of several under the same header. -/
  repeated : Bool

namespace Draft

def empty : Draft := ⟨[], [], [], false⟩

/-- Puts the present table in its place. -/
def close? (d : Draft) : Option Entries :=
  match d.path.getLast? with
  | none => some d.current
  | some key =>
    d.root.change false false (fun _ parent =>
      if d.repeated then
        match parent.lookup key with
        | some (.tables elements) => some (parent.replace key (.tables (elements ++ [d.current])))
        | _ => none
      else parent.insert? key (.table .header d.current)) d.path.dropLast .header

/-- Opens the table under a header.  A table that was only implied so far is completed. -/
def openTable? (d : Draft) (path : List String) (key : String) : Option Draft := do
  let root ← d.close?
  -- What the table holds already is found while it is taken out of its parent.
  let root ← root.change false false (fun _ parent => some parent) path .header
  let parent ← lookUp path root
  match parent.lookup key with
  | none => some ⟨root, [], path ++ [key], false⟩
  | some (.table .implied inner) => do
    let root ← root.change false false (fun _ parent => some (parent.erase key)) path .header
    some ⟨root, inner, path ++ [key], false⟩
  | some _ => none
where
  /-- The table that a path leads to. -/
  lookUp : List String → Entries → Option Entries
    | [], entries => some entries
    | key :: path, entries =>
      match entries.lookup key with
      | some (.table _ inner) => lookUp path inner
      | some (.tables elements) => do lookUp path (← elements.getLast?)
      | _ => none

/-- Opens one more table under a repeated header. -/
def openRepeated? (d : Draft) (path : List String) (key : String) : Option Draft := do
  let root ← d.close?
  let root ← root.change false false (fun _ parent =>
    match parent.lookup key with
    | none => some (parent ++ [(key, .tables [])])
    | some (.tables _) => some parent
    | some _ => none) path .header
  some ⟨root, [], path ++ [key], true⟩

end Draft

/-- Reads lines until the text ends. -/
def lines? : (fuel : Nat) → Draft → List Char → Option Draft
  | 0, _, _ => none
  | fuel + 1, d, s =>
    match skipSpaces s with
    | [] => some d
    | '#' :: _ => do lines? fuel d (← endOfLine? s)
    | '\n' :: rest => lines? fuel d rest
    | '\r' :: rest => do lines? fuel d (← behind? '\n' rest)
    | '[' :: '[' :: rest => do
      let ((path, key), rest) ← key? rest
      let rest ← behind? ']' (← behind? ']' rest)
      lines? fuel (← d.openRepeated? path key) (← endOfLine? rest)
    | '[' :: rest => do
      let ((path, key), rest) ← key? rest
      let rest ← behind? ']' rest
      lines? fuel (← d.openTable? path key) (← endOfLine? rest)
    | s => do
      let ((path, key), rest) ← key? s
      let rest ← behind? '=' rest
      let (item, rest) ← value? (2 * rest.length + 2) 0 (skipSpaces rest)
      let current ← d.current.put? path key item .header
      lines? fuel { d with current } (← endOfLine? rest)

/-- The document that a text writes; a byte order mark in front is no part of it. -/
def document? (s : List Char) : Option Entries := do
  let s := match s with
    | '\ufeff' :: rest => rest
    | _ => s
  (← lines? (s.length + 1) .empty s).close?

end ShaderFilm.Toml
