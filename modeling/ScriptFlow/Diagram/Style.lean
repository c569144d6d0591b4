import ScriptFlow.Node

/-!
# Colors and styles

A color is `#` and three or six hexadecimal digits, as it was written; the type
`Color` holds nothing else.
-/

namespace ScriptFlow

/-- Whether a character is a hexadecimal digit. -/
def isHexDigit (c : Char) : Bool :=
  c.isDigit || ('a' ≤ c && c ≤ 'f') || ('A' ≤ c && c ≤ 'F')

/-- Whether a text spells a color. -/
def isColor : Text → Bool
  | '#' :: digits => (digits.length == 3 || digits.length == 6) && digits.all isHexDigit
  | _ => false

/-- A color as it was written. -/
structure Color where
  text : Text
  isColor : isColor text = true
  deriving DecidableEq, Repr

namespace Color

/-- The color that a string spells. -/
def of (s : String) (h : ScriptFlow.isColor s.toList = true := by decide) : Color :=
  ⟨s, h⟩

/-- Reads a color for a kind of nodes. -/
def parse (kind : NodeKind) (t : Text) : Except SettingError Color :=
  let t := Text.trim t
  if h : ScriptFlow.isColor t = true then .ok ⟨t, h⟩
  else .error (.invalidColor kind.tag t)

end Color

/-- The colors of a kind of nodes. -/
structure Style where
  fill : Color
  stroke : Color
  color : Color
  deriving DecidableEq, Repr

namespace Style

/-- Reads the three colors of a kind of nodes. -/
def parse (kind : NodeKind) (fill stroke color : Text) : Except SettingError Style := do
  let fill ← Color.parse kind fill
  let stroke ← Color.parse kind stroke
  let color ← Color.parse kind color
  return { fill, stroke, color }

end Style

end ScriptFlow
