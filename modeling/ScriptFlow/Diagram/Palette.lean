import ScriptFlow.Diagram.Theme
import ScriptFlow.Json.Parser
import ScriptFlow.KeyMap

/-!
# Palettes

A palette is a theme with other styles for some kinds of nodes.  It can be read
from JSON: an object with a kind as key of each entry, whose missing colors are
those of the theme.

A key that is repeated counts once, with its last entry.  The entries are applied
in the order of their keys, so of two spellings of one kind the later in that
order decides, as a whole.

The view of a palette is `Palette.style`; the main statement is `style_withStyle`.
-/

namespace ScriptFlow

/-- A theme with other styles for some kinds of nodes, each kind once. -/
structure Palette where
  base : Theme
  overrides : List (NodeKind × Style) := []
  deriving DecidableEq, Repr

/-- The colors that an entry gives. -/
structure StyleOverride where
  fill : Option Text
  stroke : Option Text
  color : Option Text
  deriving DecidableEq, Repr

namespace Palette

/-- The palette with a style replaced. -/
def withStyle (palette : Palette) (kind : NodeKind) (style : Style) : Palette :=
  let others := palette.overrides.filter fun entry => entry.1 != kind
  { palette with overrides := (kind, style) :: others }

/-- The palette with a style replaced by the colors that texts spell. -/
def withColors (palette : Palette) (kind : NodeKind) (fill stroke color : Text) :
    Except SettingError Palette :=
  (Style.parse kind fill stroke color).map (palette.withStyle kind)

/-- The style of a kind of nodes. -/
def style (palette : Palette) (kind : NodeKind) : Style :=
  match palette.overrides.find? fun entry => entry.1 == kind with
  | some (_, style) => style
  | none => palette.base.style kind

/-- Replacing the style of a kind changes the style of that kind only. -/
theorem style_withStyle (palette : Palette) (kind other : NodeKind) (style : Style) :
    (palette.withStyle kind style).style other =
      if kind = other then style else palette.style other := by
  by_cases h : kind = other
  · simp [Palette.style, withStyle, h]
  · have hfind : ((palette.overrides.filter fun entry => entry.1 != kind).find? fun entry =>
        entry.1 == other) = palette.overrides.find? fun entry => entry.1 == other := by
      rw [List.find?_filter]
      congr 1
      funext entry
      by_cases he : entry.1 = other
      · simp [he, Ne.symm h]
      · simp [he]
    simp [Palette.style, withStyle, h, hfind]

/-- Whether no style was replaced. -/
def isPlain (palette : Palette) : Bool :=
  palette.overrides.isEmpty

/-! ### Reading -/

/-- Reads a color that may be missing or null. -/
def readColor? (key : Text) (members : List (Text × Json)) : Option (Option Text) :=
  match Json.valuesOf key members with
  | [] => some none
  | [value] => Json.orNull? Json.text? value
  | _ => none

/-- Reads an entry: an object, or an array of the three colors. -/
def readOverride? : Json → Option StyleOverride
  | .obj members => do
    let fill ← readColor? "fill" members
    let stroke ← readColor? "stroke" members
    let color ← readColor? "color" members
    some { fill, stroke, color }
  | .arr [fill, stroke, color] => do
    let fill ← Json.orNull? Json.text? fill
    let stroke ← Json.orNull? Json.text? stroke
    let color ← Json.orNull? Json.text? color
    some { fill, stroke, color }
  | _ => none

/-- Reads the entries of a palette. -/
def readEntries? (value : Json) : Option (KeyMap StyleOverride) :=
  value.members?.bind fun members =>
    (members.mapM fun member =>
      (readOverride? member.2).map fun entry => (member.1, entry)).map KeyMap.ofList

/-- Applies an entry, whose missing colors are those of the theme. -/
def apply (palette : Palette) (entry : Text × StyleOverride) : Except SettingError Palette := do
  let kind ← NodeKind.parse entry.1
  let inherited := palette.base.style kind
  palette.withColors kind (entry.2.fill.getD inherited.fill.text)
    (entry.2.stroke.getD inherited.stroke.text) (entry.2.color.getD inherited.color.text)

/-- The palette that JSON text describes on top of a theme. -/
def ofJson (wording : Wording) (base : Theme) (json : Text) : Except SettingError Palette :=
  match (Json.parse? json).bind readEntries? with
  | none => .error (.invalidPalette (wording.palette json))
  | some entries => entries.toList.foldlM apply { base }

end Palette

end ScriptFlow
