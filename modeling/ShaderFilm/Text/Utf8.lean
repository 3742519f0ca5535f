/-!
# Bytes of a text

The UTF-8 form of a text, read back in two ways: `decode?` refuses malformed bytes, and
`decodeLeniently` puts one replacement character for each malformed piece, which is as long as it is
the beginning of some character.
-/

namespace ShaderFilm.Text

abbrev Bytes := List UInt8

/-- The bytes of a text. -/
def encode (s : List Char) : Bytes := s.flatMap fun c => (String.utf8EncodeChar c)

/-- Whether a byte continues a character. -/
def isContinuation (b : UInt8) : Bool := 0x80 ≤ b && b ≤ 0xBF

/-- How many bytes follow a first byte, and the bounds of the second; none if no character begins
with it. -/
def followers? (b : UInt8) : Option (Nat × UInt8 × UInt8) :=
  if b < 0x80 then some (0, 0x80, 0xBF)
  else if b < 0xC2 then none
  else if b ≤ 0xDF then some (1, 0x80, 0xBF)
  else if b = 0xE0 then some (2, 0xA0, 0xBF)
  else if b = 0xED then some (2, 0x80, 0x9F)
  else if b ≤ 0xEF then some (2, 0x80, 0xBF)
  else if b = 0xF0 then some (3, 0x90, 0xBF)
  else if b ≤ 0xF3 then some (3, 0x80, 0xBF)
  else if b = 0xF4 then some (3, 0x80, 0x8F)
  else none

/-- The bytes that may follow a first byte, as many as there are, up to `count`. -/
def takeFollowers (count : Nat) (low high : UInt8) : Bytes → Bytes
  | b :: rest =>
    if count ≠ 0 ∧ low ≤ b ∧ b ≤ high then b :: (rest.take (count - 1)).takeWhile isContinuation
    else []
  | [] => []

/-- The code that a first byte and its followers make. -/
def codeOf (b : UInt8) (more : Bytes) : Nat :=
  let lead := match more.length with
    | 0 => b.toNat
    | 1 => b.toNat - 0xC0
    | 2 => b.toNat - 0xE0
    | _ => b.toNat - 0xF0
  more.foldl (fun n b => n * 64 + (b.toNat - 0x80)) lead

/-- The first character, or none if it is malformed, and how many bytes it or the malformed piece
has behind its first byte. -/
def firstChar (b : UInt8) (rest : Bytes) : Option Char × Nat :=
  match followers? b with
  | none => (none, 0)
  | some (count, low, high) =>
    let more := takeFollowers count low high rest
    (if more.length = count then some (Char.ofNat (codeOf b more)) else none, more.length)

/-- The text that bytes are the form of; the first `skip` bytes belong to the character before. -/
def decodeFrom? : Bytes → (skip : Nat) → Option (List Char)
  | [], _ => some []
  | _ :: rest, skip + 1 => decodeFrom? rest skip
  | b :: rest, 0 =>
    match firstChar b rest with
    | (some c, n) => (decodeFrom? rest n).map (c :: ·)
    | (none, _) => none

def decode? (bytes : Bytes) : Option (List Char) := decodeFrom? bytes 0

def decodeLenientlyFrom : Bytes → (skip : Nat) → List Char
  | [], _ => []
  | _ :: rest, skip + 1 => decodeLenientlyFrom rest skip
  | b :: rest, 0 =>
    match firstChar b rest with
    | (some c, n) => c :: decodeLenientlyFrom rest n
    | (none, n) => '\ufffd' :: decodeLenientlyFrom rest n

/-- The text of bytes with malformed pieces replaced. -/
def decodeLeniently (bytes : Bytes) : List Char := decodeLenientlyFrom bytes 0

end ShaderFilm.Text
