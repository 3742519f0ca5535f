import ShaderFilm.Text.Printable

/-!
# Quoted texts

A text between double quotes, as messages show it: quotes and backslashes are escaped, and so is
what is not printable.
-/

namespace ShaderFilm.Text

/-- The escape of a character by its code, without superfluous zeros. -/
def codeEscape (c : Char) : List Char :=
  "\\u\x7b".toList ++ Nat.toDigits 16 c.toNat ++ ['\x7d']

/-- A character as it stands between double quotes. -/
def quotedChar (c : Char) : List Char :=
  if c = '\x00' then "\\0".toList
  else if c = '\t' then "\\t".toList
  else if c = '\r' then "\\r".toList
  else if c = '\n' then "\\n".toList
  else if c = '"' then "\\\"".toList
  else if c = '\\' then "\\\\".toList
  else if isPrintable c then [c]
  else codeEscape c

/-- A text between double quotes. -/
def quoted (s : List Char) : List Char := '"' :: s.flatMap quotedChar ++ ['"']

end ShaderFilm.Text
