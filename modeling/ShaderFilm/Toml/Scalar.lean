import ShaderFilm.Number.Decimal

/-!
# Keys, strings, numbers and dates

Readers for the smallest parts of a document.  Each takes the characters from where the part begins
and answers with what follows it, or with none if the part is malformed.
-/

namespace ShaderFilm.Toml

def isSpace (c : Char) : Bool := c == ' ' || c == '\t'

def skipSpaces (s : List Char) : List Char := s.dropWhile isSpace

/-- The rest behind a line break, if there is one. -/
def takeBreak? : List Char → Option (List Char)
  | '\n' :: rest => some rest
  | '\r' :: '\n' :: rest => some rest
  | _ => none

/-- Whether `c` may stand in a comment. -/
def isCommentChar (c : Char) : Bool :=
  c == '\t' || (' ' ≤ c && c ≤ '~') || 0x80 ≤ c.toNat

/-- The text behind a comment, if there is one here. -/
def skipComment (s : List Char) : List Char :=
  match s with
  | '#' :: rest => rest.dropWhile isCommentChar
  | _ => s

/-- The text behind the end of a line, which may hold a comment; the text may end here too. -/
def endOfLine? (s : List Char) : Option (List Char) :=
  match skipComment (skipSpaces s) with
  | [] => some []
  | rest => takeBreak? rest

/-! ### Strings -/

/-- Whether `c` stands for itself in a string between double quotes. -/
def isBasicChar (c : Char) : Bool :=
  c == '\t' || ((' ' ≤ c && c ≤ '~') && c != '"' && c != '\\') || 0x80 ≤ c.toNat

/-- Whether `c` stands for itself in a string between single quotes. -/
def isLiteralChar (c : Char) : Bool :=
  c == '\t' || ((' ' ≤ c && c ≤ '~') && c != '\'') || 0x80 ≤ c.toNat

def hexValue? (c : Char) : Option Nat :=
  if c.isDigit then some (c.toNat - '0'.toNat)
  else if 'a' ≤ c ∧ c ≤ 'f' then some (c.toNat - 'a'.toNat + 10)
  else if 'A' ≤ c ∧ c ≤ 'F' then some (c.toNat - 'A'.toNat + 10)
  else none

/-- The character with a code of `count` hexadecimal digits. -/
def codePoint? (count : Nat) (s : List Char) : Option (Char × List Char) := do
  let digits := s.take count
  if digits.length ≠ count then none
  let code ← digits.foldl (fun n c => do return (← n) * 16 + (← hexValue? c)) (some 0)
  if h : code.isValidChar then some (Char.ofNatAux code h, s.drop count) else none

/-- The character that an escape stands for, from behind the backslash. -/
def escape? : List Char → Option (Char × List Char)
  | 'b' :: rest => some ('\x08', rest)
  | 'f' :: rest => some ('\x0c', rest)
  | 'n' :: rest => some ('\n', rest)
  | 'r' :: rest => some ('\r', rest)
  | 't' :: rest => some ('\t', rest)
  | '"' :: rest => some ('"', rest)
  | '\\' :: rest => some ('\\', rest)
  | 'u' :: rest => codePoint? 4 rest
  | 'U' :: rest => codePoint? 8 rest
  | _ => none

/-- The string that ends with the next double quote. -/
def basicString? : (fuel : Nat) → List Char → Option (List Char × List Char)
  | 0, _ => none
  | fuel + 1, s =>
    match s with
    | '"' :: rest => some ([], rest)
    | '\\' :: rest => do
      let (c, rest) ← escape? rest
      let (cs, rest) ← basicString? fuel rest
      some (c :: cs, rest)
    | c :: rest =>
      if isBasicChar c then do
        let (cs, rest) ← basicString? fuel rest
        some (c :: cs, rest)
      else none
    | [] => none

/-- The string that ends with the next single quote. -/
def literalString? : List Char → Option (List Char × List Char)
  | '\'' :: rest => some ([], rest)
  | c :: rest =>
    if isLiteralChar c then (literalString? rest).map fun (cs, rest) => (c :: cs, rest) else none
  | [] => none

/-- Skips blanks and line breaks. -/
def skipBreaks : (fuel : Nat) → List Char → List Char
  | 0, s => s
  | fuel + 1, s =>
    match takeBreak? (skipSpaces s) with
    | some rest => skipBreaks fuel rest
    | none => skipSpaces s

/-- The rest behind the end of a string over several lines.  Up to two quotes right before the three
that end it belong to the string. -/
def closing? (quote : Char) (s : List Char) : Option (List Char × List Char) :=
  let count := (s.takeWhile (· == quote)).length
  if count < 3 then none
  else
    let extra := min (count - 3) 2
    some (List.replicate extra quote, s.drop (3 + extra))

/-- The string over several lines that ends with three double quotes. -/
def longBasicString? : (fuel : Nat) → List Char → Option (List Char × List Char)
  | 0, _ => none
  | fuel + 1, s =>
    match s with
    | [] => none
    | '"' :: rest =>
      match closing? '"' s with
      | some found => some found
      | none => (longBasicString? fuel rest).map fun (cs, rest) => ('"' :: cs, rest)
    | '\\' :: rest =>
      match takeBreak? (skipSpaces rest) with
      | some after => longBasicString? fuel (skipBreaks after.length after)
      | none => do
        let (c, rest) ← escape? rest
        let (cs, rest) ← longBasicString? fuel rest
        some (c :: cs, rest)
    | c :: rest =>
      match takeBreak? s with
      | some after => (longBasicString? fuel after).map fun (cs, rest) => ('\n' :: cs, rest)
      | none =>
        if isBasicChar c then (longBasicString? fuel rest).map fun (cs, rest) => (c :: cs, rest)
        else none

/-- The string over several lines that ends with three single quotes. -/
def longLiteralString? : (fuel : Nat) → List Char → Option (List Char × List Char)
  | 0, _ => none
  | fuel + 1, s =>
    match s with
    | [] => none
    | '\'' :: rest =>
      match closing? '\'' s with
      | some found => some found
      | none => (longLiteralString? fuel rest).map fun (cs, rest) => ('\'' :: cs, rest)
    | c :: rest =>
      match takeBreak? s with
      | some after => (longLiteralString? fuel after).map fun (cs, rest) => ('\n' :: cs, rest)
      | none =>
        if isLiteralChar c then
          (longLiteralString? fuel rest).map fun (cs, rest) => (c :: cs, rest)
        else none

/-- A string without a line break right at its beginning. -/
def trimBreak (s : List Char) : List Char := (takeBreak? s).getD s

/-- A string of any kind, from its opening quote on. -/
def string? (s : List Char) : Option (String × List Char) :=
  let found := match s with
    | '"' :: '"' :: '"' :: rest => longBasicString? (rest.length + 1) (trimBreak rest)
    | '\'' :: '\'' :: '\'' :: rest => longLiteralString? (rest.length + 1) (trimBreak rest)
    | '"' :: rest => basicString? (rest.length + 1) rest
    | '\'' :: rest => literalString? rest
    | _ => none
  found.map fun (cs, rest) => (String.ofList cs, rest)

/-! ### Keys -/

/-- Whether `c` may stand in a key without quotes. -/
def isBareChar (c : Char) : Bool := c.isAlphanum || c == '-' || c == '_'

/-- A key without dots. -/
def simpleKey? (s : List Char) : Option (String × List Char) :=
  match s with
  | '"' :: rest =>
    (basicString? (rest.length + 1) rest).map fun (cs, rest) => (String.ofList cs, rest)
  | '\'' :: rest => (literalString? rest).map fun (cs, rest) => (String.ofList cs, rest)
  | _ =>
    let word := s.takeWhile isBareChar
    if word.isEmpty then none else some (String.ofList word, s.dropWhile isBareChar)

/-- A key with its dots, and blanks around each part. -/
def dottedKey? : (fuel : Nat) → List Char → Option (List String × List Char)
  | 0, _ => none
  | fuel + 1, s => do
    let (part, rest) ← simpleKey? (skipSpaces s)
    match skipSpaces rest with
    | '.' :: rest => do
      let (more, rest) ← dottedKey? fuel rest
      some (part :: more, rest)
    | rest => some ([part], rest)

/-- How deep values and keys may nest. -/
def depthLimit : Nat := 80

/-- A key: its path and its last part. -/
def key? (s : List Char) : Option ((List String × String) × List Char) := do
  let (parts, rest) ← dottedKey? (s.length + 1) s
  if depthLimit ≤ parts.length then none
  let last ← parts.getLast?
  some ((parts.dropLast, last), rest)

/-! ### Numbers -/

/-- The digits that may follow a first one, with single underscores in front of some of them. -/
def moreDigits (isDigit : Char → Bool) : List Char → List Char × List Char
  | '_' :: d :: rest =>
    if isDigit d then
      let (ds, rest) := moreDigits isDigit rest
      (d :: ds, rest)
    else ([], '_' :: d :: rest)
  | d :: rest =>
    if isDigit d then
      let (ds, rest) := moreDigits isDigit rest
      (d :: ds, rest)
    else ([], d :: rest)
  | [] => ([], [])

/-- Digits, one at least. -/
def digits? (isDigit : Char → Bool) : List Char → Option (List Char × List Char)
  | [] => none
  | c :: rest =>
    if isDigit c then
      let (ds, rest) := moreDigits isDigit rest
      some (c :: ds, rest)
    else none

/-- A decimal whole number without superfluous zeros in front. -/
def decimalDigits? (s : List Char) : Option (List Char × List Char) :=
  match s with
  | '0' :: rest => some (['0'], rest)
  | _ => digits? Char.isDigit s

/-- A whole number within the range of 64-bit words. -/
def ranged? (n : Int) : Option Int :=
  if -0x8000000000000000 ≤ n ∧ n < 0x8000000000000000 then some n else none

def valueIn (base : Nat) (ds : List Char) : Nat :=
  ds.foldl (fun n c => n * base + (hexValue? c).getD 0) 0

/-- A whole number. -/
def integer? (s : List Char) : Option (Int × List Char) :=
  let based (base : Nat) (isDigit : Char → Bool) (rest : List Char) : Option (Int × List Char) := do
    let (ds, rest) ← digits? isDigit rest
    let n ← ranged? (valueIn base ds)
    some (n, rest)
  match s with
  | '0' :: 'x' :: rest => based 16 (fun c => (hexValue? c).isSome) rest
  | '0' :: 'o' :: rest => based 8 (fun c => '0' ≤ c && c ≤ '7') rest
  | '0' :: 'b' :: rest => based 2 (fun c => c == '0' || c == '1') rest
  | _ => do
    let (negative, rest) := Number.cutSign s
    let (ds, rest) ← decimalDigits? rest
    let n ← ranged? (if negative then -(valueIn 10 ds : Int) else valueIn 10 ds)
    some (n, rest)

/-- The exponent of a float, if one begins here, without underscores. -/
def exponent? (s : List Char) : Option (List Char × List Char) :=
  match s with
  | e :: rest =>
    if e = 'e' ∨ e = 'E' then do
      let sign := rest.takeWhile fun c => c == '+' || c == '-'
      if 1 < sign.length then none
      let (ds, rest) ← digits? Char.isDigit (rest.drop sign.length)
      some ('e' :: sign ++ ds, rest)
    else none
  | [] => none

/-- A number with a fraction or an exponent.  It may not be so large as to become infinite, unless
it is negative. -/
def decimalFloat? (s : List Char) : Option (Float × List Char) := do
  let (negative, rest) := Number.cutSign s
  let (whole, rest) ← decimalDigits? rest
  let (text, rest) ← match rest with
    | '.' :: rest => do
      let (fraction, rest) ← digits? Char.isDigit rest
      match rest with
      | c :: _ =>
        if c = 'e' ∨ c = 'E' then do
          let (e, rest) ← exponent? rest
          some (whole ++ '.' :: fraction ++ e, rest)
        else some (whole ++ '.' :: fraction, rest)
      | [] => some (whole ++ '.' :: fraction, rest)
    | _ => do
      let (e, rest) ← exponent? rest
      some (whole ++ e, rest)
  let x := (← Number.readDecimal? text).toFloat
  if x.isInf ∧ !negative then none
  some (Number.withSign negative x, rest)

/-- A float, or one of the words for what is no finite number. -/
def float? (s : List Char) : Option (Float × List Char) :=
  let (negative, rest) := Number.cutSign s
  match rest with
  | 'i' :: 'n' :: 'f' :: rest => some (Number.infinity negative, rest)
  | 'n' :: 'a' :: 'n' :: rest => some (Number.nan, rest)
  | _ => decimalFloat? s

/-! ### Dates and times -/

/-- A number of exactly `count` digits. -/
def fixedDigits? (count : Nat) (s : List Char) : Option (Nat × List Char) :=
  let ds := s.take count
  if ds.length = count ∧ ds.all Char.isDigit then some (valueIn 10 ds, s.drop count) else none

/-- The text behind `c`, which has to come next. -/
def behind? (c : Char) : List Char → Option (List Char)
  | d :: rest => if c = d then some rest else none
  | [] => none

def daysInMonth (year month : Nat) : Nat :=
  if month = 2 then
    if year % 4 = 0 ∧ (year % 100 ≠ 0 ∨ year % 400 = 0) then 29 else 28
  else if [4, 6, 9, 11].contains month then 30
  else 31

/-- The text behind a date. -/
def date? (s : List Char) : Option (List Char) := do
  let (year, rest) ← fixedDigits? 4 s
  let (month, rest) ← fixedDigits? 2 (← behind? '-' rest)
  let (day, rest) ← fixedDigits? 2 (← behind? '-' rest)
  if 1 ≤ month ∧ month ≤ 12 ∧ 1 ≤ day ∧ day ≤ daysInMonth year month then some rest else none

/-- The text behind a time of day. -/
def time? (s : List Char) : Option (List Char) := do
  let (hour, rest) ← fixedDigits? 2 s
  let (minute, rest) ← fixedDigits? 2 (← behind? ':' rest)
  let (second, rest) ← fixedDigits? 2 (← behind? ':' rest)
  if hour ≤ 23 ∧ minute ≤ 59 ∧ second ≤ 60 then
    match rest with
    | '.' :: more =>
      if (more.head?).any Char.isDigit then some (more.dropWhile Char.isDigit) else none
    | _ => some rest
  else none

/-- The text behind an offset from universal time. -/
def offset? (s : List Char) : Option (List Char) := do
  match s with
  | 'Z' :: rest => some rest
  | 'z' :: rest => some rest
  | c :: rest =>
    if c = '+' ∨ c = '-' then
      let (hour, rest) ← fixedDigits? 2 rest
      let (minute, rest) ← fixedDigits? 2 (← behind? ':' rest)
      if hour ≤ 23 ∧ minute ≤ 59 then some rest else none
    else none
  | [] => none

/-- Whether a text starts like a date or like a time. -/
def startsMoment (s : List Char) : Bool :=
  let ds := (s.takeWhile Char.isDigit).length
  (ds == 4 && s[4]? == some '-') || (ds == 2 && s[2]? == some ':')

/-- The text behind a date, a time, or both. -/
def moment? (s : List Char) : Option (List Char) :=
  if s[2]? = some ':' then time? s
  else do
    let rest ← date? s
    match rest with
    | c :: more =>
      if (c = 'T' ∨ c = 't' ∨ c = ' ') ∧ (fixedDigits? 2 more).isSome ∧ more[2]? = some ':' then do
        let rest ← time? more
        match rest with
        | d :: _ => if ['Z', 'z', '+', '-'].contains d then offset? rest else some rest
        | [] => some rest
      else some rest
    | [] => some rest

end ShaderFilm.Toml
