/-!
# Identifiers and whole words

An identifier character is an ASCII letter, a digit or an underscore.  `findWord` looks for an
occurrence of a name that is no part of a longer identifier, and `replaceAll` renames every
occurrence, those inside longer identifiers included.
-/

namespace ShaderFilm.Text

/-- Whether `c` may stand in an identifier. -/
def isIdentChar (c : Char) : Bool := c.isAlphanum || c == '_'

/-- The identifier characters at the start of a text, possibly none. -/
def firstWord (s : List Char) : List Char := s.takeWhile isIdentChar

/-- The offsets at which `pattern` matches, from left to right, no match overlapping the one before
it.  `offset` is the place of the given text in the whole, and the first `skip` characters of it
belong to the match before. -/
def matchOffsets (pattern : List Char) : List Char → (offset skip : Nat) → List Nat
  | [], _, _ => []
  | _ :: rest, offset, skip + 1 => matchOffsets pattern rest (offset + 1) skip
  | c :: rest, offset, 0 =>
    if pattern.isPrefixOf (c :: rest) then
      offset :: matchOffsets pattern rest (offset + 1) (pattern.length - 1)
    else matchOffsets pattern rest (offset + 1) 0

/-- Whether the characters next to the `length` characters at `offset` are no identifier
characters. -/
def standsAlone (s : List Char) (offset length : Nat) : Bool :=
  !((offset != 0 && (s[offset - 1]?).any isIdentChar) || (s[offset + length]?).any isIdentChar)

/-- The offset of the first occurrence of `word` that is no part of a longer identifier. -/
def findWord (s word : List Char) : Option Nat :=
  (matchOffsets word s 0 0).find? (standsAlone s · word.length)

/-- Whether `word` occurs as no part of a longer identifier. -/
def hasWord (s word : List Char) : Bool := (findWord s word).isSome

/-- The text with every occurrence of `old` replaced by `new`, from left to right; the first `skip`
characters belong to the occurrence before. -/
def replaceFrom (old new : List Char) : List Char → (skip : Nat) → List Char
  | [], _ => []
  | _ :: rest, skip + 1 => replaceFrom old new rest skip
  | c :: rest, 0 =>
    if old.isPrefixOf (c :: rest) then new ++ replaceFrom old new rest (old.length - 1)
    else c :: replaceFrom old new rest 0

/-- The text with every occurrence of the nonempty `old` replaced by `new`. -/
def replaceAll (old new s : List Char) : List Char := replaceFrom old new s 0

/-- What stands before and after the first occurrence of `pattern`. -/
def cutAt (pattern : List Char) : List Char → Option (List Char × List Char)
  | [] => if pattern.isEmpty then some ([], []) else none
  | c :: rest =>
    if pattern.isPrefixOf (c :: rest) then some ([], (c :: rest).drop pattern.length)
    else (cutAt pattern rest).map fun (before, after) => (c :: before, after)

end ShaderFilm.Text
