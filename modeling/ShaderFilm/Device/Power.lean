import ShaderFilm.Text.Blank

/-!
# Choice of the graphics adapter
-/

namespace ShaderFilm.Device

open ShaderFilm.Text

/-- Which adapter is preferred: one that saves power, or one that is fast. -/
inductive Power where
  | low
  | high
  deriving DecidableEq, Repr

namespace Power

/-- The fast adapter is taken where nothing is said. -/
def default : Power := high

def name : Power → String
  | low => "low"
  | high => "high"

/-- The preference that a text states: its blanks at either end do not count, nor does the case of
ASCII letters.  A text that states none is answered with itself as it was compared. -/
def ofText (s : List Char) : Except (List Char) Power :=
  let word := (trim s).map Char.toLower
  if ["low", "low-power", "integrated"].any (·.toList == word) then .ok low
  else if ["high", "high-performance", "discrete"].any (·.toList == word) then .ok high
  else .error word

/-- What is said about a text that states no preference. -/
def unknownMessage (word : List Char) : String :=
  "unknown gpu power preference '" ++ String.ofList word ++ "'; expected low or high"

end Power

/-- How an adapter is asked for. -/
structure Options where
  power : Power
  /-- Whether only a software adapter will do. -/
  forceFallback : Bool
  deriving DecidableEq, Repr

end ShaderFilm.Device
