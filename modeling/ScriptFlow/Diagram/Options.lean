import ScriptFlow.Diagram.Link
import ScriptFlow.Diagram.Palette
import ScriptFlow.Verbosity

/-!
# Diagram options

What can be chosen about a diagram.
-/

namespace ScriptFlow

/-- The direction in which a diagram runs. -/
inductive Direction where
  | topDown
  | leftRight
  | bottomTop
  | rightLeft
  deriving DecidableEq, Repr

namespace Direction

/-- The abbreviation of a direction. -/
def tag : Direction → Text
  | topDown => "TD"
  | leftRight => "LR"
  | bottomTop => "BT"
  | rightLeft => "RL"

/-- The names of the directions. -/
def choices : List (Text × Direction) :=
  [("td", .topDown), ("tb", .topDown), ("lr", .leftRight), ("bt", .bottomTop),
    ("rl", .rightLeft)]

/-- Reads the name of a direction. -/
def parse (text : Text) : Except SettingError Direction :=
  choose choices .unknownDirection text

end Direction

/-- What stands in a node. -/
inductive LabelMode where
  | label
  | id
  /-- The label and the identifier in parentheses. -/
  | both
  deriving DecidableEq, Repr

namespace LabelMode

/-- The names of the modes. -/
def choices : List (Text × LabelMode) :=
  [("label", .label), ("id", .id), ("both", .both)]

/-- Reads the name of a mode. -/
def parse (text : Text) : Except SettingError LabelMode :=
  choose choices .unknownLabelMode text

end LabelMode

/-- The choices for a diagram. -/
structure DiagramOptions where
  /-- The name of a theme, which counts if there is no palette. -/
  theme : Text := Theme.standard.name
  palette : Option Palette := none
  direction : Direction := .topDown
  labels : LabelMode := .label
  /-- Connections are labelled with what they carry. -/
  showFiles : Bool := false
  /-- What nodes read and write is drawn as nodes of its own. -/
  showArtifacts : Bool := false
  groupByFile : Bool := false
  /-- Nodes where the workflow starts and ends stand out. -/
  boundaries : Bool := true
  styled : Bool := true
  links : Option LinkScheme := none
  title : Option Text := none
  verbosity : Verbosity := .normal

end ScriptFlow
