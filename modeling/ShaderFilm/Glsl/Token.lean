import ShaderFilm.Glsl.Fault
import ShaderFilm.Text.Word

/-!
# Tokens of the shading language

The text of a shader is first made plain: every kind of line break becomes a line feed, continued
lines are joined, and each comment gives way to a blank.  What is left is cut into tokens line by
line, for directives end with their line.
-/

namespace ShaderFilm.Glsl

open ShaderFilm.Text

/-- A token. -/
inductive Token where
  | word (name : String)
  | integer (value : Nat) (unsigned : Bool)
  /-- A floating-point literal; `double` if it is one of double width. -/
  | real (double : Bool)
  | mark (spelling : String)
  deriving DecidableEq, Repr

namespace Token

/-- The text that a diagnostic shows for a token. -/
def spelling : Token → String
  | word name => name
  | integer value _ => toString value
  | real _ => "number"
  | mark s => s

end Token

/-! ### Plain text -/

/-- Writes every line break as a single line feed. -/
def plainBreaks : List Char → List Char
  | [] => []
  | '\r' :: '\n' :: rest => '\n' :: plainBreaks rest
  | '\n' :: '\r' :: rest => '\n' :: plainBreaks rest
  | '\r' :: rest => '\n' :: plainBreaks rest
  | c :: rest => c :: plainBreaks rest

/-- Joins each line that ends in a backslash with the next one. -/
def joinContinued : List Char → List Char
  | [] => []
  | '\\' :: '\n' :: rest => joinContinued rest
  | c :: rest => c :: joinContinued rest

/-- Where a character of the text stands. -/
inductive CommentState where
  | code
  | line
  | block

/-- The text with a blank for every comment. -/
def dropComments : CommentState → List Char → Except Fault (List Char)
  | .block, [] => .error .openComment
  | _, [] => .ok []
  | .code, '/' :: '/' :: rest => dropComments .line rest
  | .code, '/' :: '*' :: rest => (dropComments .block rest).map (' ' :: ·)
  | .code, c :: rest => (dropComments .code rest).map (c :: ·)
  | .line, '\n' :: rest => (dropComments .code rest).map ('\n' :: ·)
  | .line, _ :: rest => dropComments .line rest
  | .block, '*' :: '/' :: rest => dropComments .code rest
  | .block, _ :: rest => dropComments .block rest

/-! ### Single tokens -/

/-- The marks of the language, longer ones before their beginnings. -/
def marks : List String :=
  ["<<=", ">>=", "+=", "-=", "*=", "/=", "%=", "&=", "|=", "^=", "++", "--", "<<", ">>", "<=",
   ">=", "==", "!=", "&&", "||", "^^", "(", ")", "[", "]", "\x7b", "\x7d", ".", ",", ":", "=", ";",
   "!", "-", "~", "+", "*", "/", "%", "<", ">", "|", "^", "&", "?", "#"]

/-- The value of a digit in bases up to sixteen. -/
def digitValue? (c : Char) : Option Nat :=
  if c.isDigit then some (c.toNat - '0'.toNat)
  else if 'a' ≤ c ∧ c ≤ 'f' then some (c.toNat - 'a'.toNat + 10)
  else if 'A' ≤ c ∧ c ≤ 'F' then some (c.toNat - 'A'.toNat + 10)
  else none

/-- The number that digits write in a base; none if one of them is no digit of it. -/
def numeral? (base : Nat) (digits : List Char) : Option Nat :=
  digits.foldl (fun acc c => do
    let value ← acc
    let digit ← digitValue? c
    if digit < base then some (value * base + digit) else none) (some 0)

/-- An integer with its suffix. -/
def integerToken? (base : Nat) (digits rest : List Char) : Option (Token × List Char) := do
  let value ← numeral? base digits
  if UInt32.size ≤ value then none
  match rest with
  | 'u' :: rest => some (.integer value true, rest)
  | 'U' :: rest => some (.integer value true, rest)
  | _ => some (.integer value false, rest)

/-- The exponent at the start of a text, with its letter; empty if there is none. -/
def cutExponent (s : List Char) : List Char × List Char :=
  match s with
  | [] => ([], s)
  | e :: rest =>
    if e = 'e' ∨ e = 'E' then
      let (sign, rest) := match rest with
        | '+' :: rest => (['+'], rest)
        | '-' :: rest => (['-'], rest)
        | _ => ([], rest)
      let digits := rest.takeWhile Char.isDigit
      if digits.isEmpty then ([], s)
      else (e :: sign ++ digits, rest.dropWhile Char.isDigit)
    else ([], s)

/-- A floating-point literal from its suffix on. -/
def realToken (rest : List Char) : Token × List Char :=
  match rest with
  | 'f' :: rest => (.real false, rest)
  | 'F' :: rest => (.real false, rest)
  | 'l' :: 'f' :: rest => (.real true, rest)
  | 'L' :: 'F' :: rest => (.real true, rest)
  | _ => (.real false, rest)

/-- The number that a text starts with, which is known to start with a digit, or with a point and a
digit. -/
def numberToken? (s : List Char) : Option (Token × List Char) :=
  match s with
  | '0' :: 'x' :: rest =>
    let digits := rest.takeWhile fun c => (digitValue? c).isSome
    if digits.isEmpty then none else integerToken? 16 digits (rest.drop digits.length)
  | '0' :: 'X' :: rest =>
    let digits := rest.takeWhile fun c => (digitValue? c).isSome
    if digits.isEmpty then none else integerToken? 16 digits (rest.drop digits.length)
  | _ =>
    let whole := s.takeWhile Char.isDigit
    let rest := s.drop whole.length
    match rest with
    | '.' :: rest =>
      let rest := rest.dropWhile Char.isDigit
      some (realToken (cutExponent rest).2)
    | _ =>
      let (exponent, after) := cutExponent rest
      if exponent.isEmpty then
        integerToken? (if whole.head? = some '0' then 8 else 10) whole rest
      else some (realToken after)

/-- Whether `c` separates tokens within a line. -/
def isSpace (c : Char) : Bool := c == ' ' || c == '\t' || c == '\x0b' || c == '\x0c'

/-- The token that a nonempty text starts with, and what follows it. -/
def nextToken (c : Char) (rest : List Char) : Except Fault (Token × List Char) :=
  let s := c :: rest
  let fault : Except Fault (Token × List Char) := .error (.strayCharacter c)
  if c.isDigit || (c == '.' && (rest.head?).any Char.isDigit) then
    (numberToken? s).elim fault .ok
  else if isIdentChar c then
    .ok (.word (String.ofList (s.takeWhile isIdentChar)), s.dropWhile isIdentChar)
  else
    match marks.find? fun m => m.toList.isPrefixOf s with
    | some m => .ok (.mark m, s.drop m.length)
    | none => fault

/-- The tokens of a line. -/
def lineTokens (s : List Char) : Except Fault (List Token) :=
  match s with
  | [] => .ok []
  | c :: rest =>
    if isSpace c then lineTokens rest
    else do
      let (token, after) ← nextToken c rest
      if _shorter : after.length < (c :: rest).length then
        return token :: (← lineTokens after)
      else throw (.strayCharacter c)
termination_by s.length
decreasing_by
  · exact Nat.lt_succ_self rest.length
  · assumption

/-- Cuts a text at its line feeds. -/
def splitBreaks : List Char → List (List Char)
  | [] => [[]]
  | '\n' :: rest => [] :: splitBreaks rest
  | c :: rest =>
    match splitBreaks rest with
    | [] => [[c]]
    | line :: more => (c :: line) :: more

/-- A line of plain text with its tokens. -/
structure Line where
  text : List Char
  tokens : List Token

/-- The lines of a text, with line breaks and comments made plain. -/
def Line.ofText (s : List Char) : Except Fault (List Line) := do
  let plain ← dropComments .code (joinContinued (plainBreaks s))
  (splitBreaks plain).mapM fun text => return { text, tokens := ← lineTokens text }

end ShaderFilm.Glsl
