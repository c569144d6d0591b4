import ScriptFlow.Diagram.Options
import ScriptFlow.Graph

/-!
# Lines of a diagram

A diagram is a list of lines, each of one of few forms.  `DiagramLine.text` is
the only place where the diagram language is spelled.
-/

namespace ScriptFlow

/-- A line of a diagram. -/
inductive DiagramLine where
  | header (direction : Direction)
  | title (text : Text)
  /-- The only line below the title of a diagram without nodes. -/
  | placeholder
  /-- A node with its label, in the shape of its kind, inside a group or not. -/
  | node (grouped : Bool) (id label : Text) (kind : NodeKind)
  | groupStart (id label : Text)
  | groupEnd
  | edge (source : Text) (kind : EdgeKind) (label : Option Text) (target : Text)
  /-- The style of a kind. -/
  | style (kind : NodeKind) (colors : Style)
  /-- The nodes that have the style of a kind. -/
  | members (kind : NodeKind) (ids : List Text)
  | link (id uri : Text)
  deriving DecidableEq, Repr

namespace DiagramLine

/-- The indentation of every line but the first. -/
def indent : Text :=
  "    "

/-- The brackets around the label of a kind of nodes. -/
def brackets : NodeKind → Text × Text
  | .input => ("([", "])")
  | .start => ("([", "])")
  | .stop => ("([", "])")
  | .process => ("[", "]")
  | .output => ("[[", "]]")
  | .decision => ("\x7b", "\x7d")
  | .artifact => ("[(", ")]")

/-- The arrow of a kind of connections. -/
def arrow : EdgeKind → Text
  | .data => "-->"
  | .dependency => "-.->"

/-- The width of the lines around a kind of nodes. -/
def strokeWidth : NodeKind → Text
  | .start => "3px"
  | .stop => "3px"
  | _ => "2px"

/-- A label between double quotes. -/
def quoted (label : Text) : Text :=
  ['"'] ++ label ++ ['"']

/-- What a line says, without indentation. -/
def content : DiagramLine → Text
  | header direction => "flowchart " ++ direction.tag
  | title text => "%% " ++ text
  | placeholder => "empty[" ++ quoted "No workflow nodes found" ++ "]"
  | node _ id label kind => id ++ (brackets kind).1 ++ quoted label ++ (brackets kind).2
  | groupStart id label => "subgraph " ++ id ++ " [" ++ quoted label ++ "]"
  | groupEnd => "end"
  | edge source kind none target => source ++ " " ++ arrow kind ++ " " ++ target
  | edge source kind (some label) target =>
    source ++ " " ++ arrow kind ++ "|" ++ label ++ "| " ++ target
  | style kind colors =>
    "classDef " ++ kind.tag ++ "Style fill:" ++ colors.fill.text ++ ",stroke:" ++
      colors.stroke.text ++ ",stroke-width:" ++ strokeWidth kind ++ ",color:" ++
      colors.color.text
  | members kind ids => "class " ++ Text.join [','] ids ++ " " ++ kind.tag ++ "Style"
  | link id uri => "click " ++ id ++ " href " ++ quoted uri ++ " _blank"

/-- The indentation of a line. -/
def indentation : DiagramLine → Text
  | header _ => []
  | node true .. => indent ++ indent
  | _ => indent

/-- The text of a line, without blanks at its end. -/
def text (line : DiagramLine) : Text :=
  Text.trimEnd (line.indentation ++ line.content)

end DiagramLine

end ScriptFlow
