import ShaderFilm.Files.Tree
import ShaderFilm.Number.Decimal
import ShaderFilm.Text.Utf8

/-!
# Commands of the shell

What the commands print and how they end, apart from those that read.
-/

namespace ShaderFilm.Shell

open ShaderFilm.Files (Tree)

/-- The value of up to `count` octal digits, and how many there are. -/
def octal (count : Nat) (s : List Char) : Nat × Nat :=
  let ds := (s.take count).takeWhile fun c => '0' ≤ c && c ≤ '7'
  (ds.foldl (fun n c => n * 8 + (c.toNat - '0'.toNat)) 0, ds.length)

/-- What an escape stands for, from behind the backslash, and how many characters it takes. -/
def escapeValue (s : List Char) : List UInt8 × Nat :=
  match s with
  | 'a' :: _ => ([7], 1)
  | 'b' :: _ => ([8], 1)
  | 'f' :: _ => ([12], 1)
  | 'n' :: _ => ([10], 1)
  | 'r' :: _ => ([13], 1)
  | 't' :: _ => ([9], 1)
  | 'v' :: _ => ([11], 1)
  | '\\' :: _ => ([92], 1)
  | c :: _ =>
    if '0' ≤ c ∧ c ≤ '7' then
      let (value, count) := octal 3 s
      ([UInt8.ofNat value], count)
    else ([92], 0)
  | [] => ([92], 0)

/-- The bytes of a text with its escapes taken; the first `skip` characters belong to the escape
before. -/
def unescape : List Char → (skip : Nat) → List UInt8
  | [], _ => []
  | _ :: rest, skip + 1 => unescape rest skip
  | '\\' :: rest, 0 =>
    let (bytes, count) := escapeValue rest
    bytes ++ unescape rest count
  | c :: rest, 0 => Text.encode [c] ++ unescape rest 0

/-- The words with single spaces between them. -/
def spaced : List (List Char) → List Char
  | [] => []
  | [w] => w
  | w :: rest => w ++ ' ' :: spaced rest

/-- What `echo` prints. -/
def echo : List (List Char) → List UInt8
  | ['-', 'n'] :: words => unescape (spaced words) 0
  | words => unescape (spaced words) 0 ++ [10]

/-- What one use of a format prints, and the words it leaves: the directives `%s`, `%d` and `%%` are
known. -/
def formatOnce : List Char → List (List Char) → (skip : Nat) → List UInt8 × List (List Char)
  | [], words, _ => ([], words)
  | _ :: rest, words, skip + 1 => formatOnce rest words skip
  | '%' :: c :: rest, words, 0 =>
    if c = '%' then
      let (bytes, words) := formatOnce rest words 0
      (37 :: bytes, words)
    else if c = 's' ∨ c = 'd' then
      let (bytes, left) := formatOnce rest words.tail 0
      (Text.encode (words.headD []) ++ bytes, left)
    else
      let (bytes, words) := formatOnce (c :: rest) words 0
      (37 :: bytes, words)
  | '\\' :: rest, words, 0 =>
    let (escaped, count) := escapeValue rest
    let (bytes, words) := formatOnce rest words count
    (escaped ++ bytes, words)
  | c :: rest, words, 0 =>
    let (bytes, words) := formatOnce rest words 0
    (Text.encode [c] ++ bytes, words)

/-- What `printf` prints: the format is used again as long as it takes words and words are left. -/
def formatted (format : List Char) (words : List (List Char)) : List UInt8 :=
  match formatOnce format words 0 with
  | (bytes, left) =>
    if _shorter : left.length < words.length then
      if left.isEmpty then bytes else bytes ++ formatted format left
    else bytes
termination_by words.length
decreasing_by assumption

/-- A whole number. -/
def integer? (s : List Char) : Option Int :=
  let (negative, ds) := Number.cutSign s
  if ds.isEmpty ∨ !ds.all Char.isDigit then none
  else some (if negative then -(Number.natOfDigits ds : Int) else Number.natOfDigits ds)

/-- Whether two numbers compare as an operator says; none if it compares no numbers. -/
def compared? (operator : String) (a b : Int) : Option Bool :=
  match operator with
  | "-eq" => some (a == b)
  | "-ne" => some (a != b)
  | "-lt" => some (a < b)
  | "-le" => some (a ≤ b)
  | "-gt" => some (b < a)
  | "-ge" => some (b ≤ a)
  | _ => none

/-- The answer of `test`; none if its question is not understood. -/
def test? (files : Tree) : List (List Char) → Option Bool
  | [] => some false
  | [s] => some !s.isEmpty
  | [operator, s] =>
    match String.ofList operator with
    | "!" => some s.isEmpty
    | "-n" => some !s.isEmpty
    | "-z" => some s.isEmpty
    | "-e" => some (files.exists? ⟨s⟩)
    | "-f" => some (files.isFile ⟨s⟩)
    | "-d" => some (files.isDirectory ⟨s⟩)
    | "-s" => some ((files.size? ⟨s⟩).any (0 < ·))
    | _ => none
  | [a, operator, b] =>
    match String.ofList operator with
    | "=" => some (a == b)
    | "!=" => some (a != b)
    | name => do compared? name (← integer? a) (← integer? b)
  | _ => none

end ShaderFilm.Shell
