import ShaderFilm.Files.Path

/-!
# Encoding profiles

The name of the output file decides how a video is encoded: `.mov` files are made for editing, all
others for playback.
-/

namespace ShaderFilm.Encoder

open ShaderFilm.Files (Path)

inductive ProfileKind where
  /-- For editing: ProRes in a QuickTime container. -/
  | mezzanine
  /-- For playback: H.264. -/
  | delivery
  deriving DecidableEq, Repr

/-- The settings of a codec. -/
structure Profile where
  kind : ProfileKind
  codec : String
  pixelFormat : String
  codecArguments : List String
  deriving DecidableEq, Repr

namespace Profile

def mezzanine : Profile := ⟨.mezzanine, "prores_ks", "yuv422p10le", ["-profile:v", "3"]⟩

def delivery : Profile :=
  ⟨.delivery, "libx264", "yuv420p",
    ["-crf", "18", "-preset", "medium", "-movflags", "+faststart"]⟩

/-- Whether a path has the extension `mov`, in capitals or not. -/
def isMovie (p : Path) : Bool := p.extension?.any fun e => e.map Char.toLower == "mov".toList

/-- The profile for an output file. -/
def forOutput (p : Path) : Profile := if isMovie p then mezzanine else delivery

/-- Whether the pixel format begins as stated. -/
def hasFormat (p : Profile) (beginning : String) : Bool :=
  beginning.toList.isPrefixOf p.pixelFormat.toList

/-- Whether pixels share their colour with a neighbour beside them. -/
def requiresEvenWidth (p : Profile) : Bool := p.hasFormat "yuv420" || p.hasFormat "yuv422"

/-- Whether pixels share their colour with a neighbour above or below. -/
def requiresEvenHeight (p : Profile) : Bool := p.hasFormat "yuv420"

def kindName : ProfileKind → String
  | .mezzanine => "mezzanine"
  | .delivery => "delivery"

def text (p : Profile) : String :=
  kindName p.kind ++ " (" ++ p.codec ++ " / " ++ p.pixelFormat ++ ")"

end Profile

end ShaderFilm.Encoder
