import ScriptFlow.FilePath
import ScriptFlow.KeyMap
import ScriptFlow.Setting

/-!
# Nodes

A node is one row of the workflow table: a step of the workflow with the files
it reads, writes and sources.
-/

namespace ScriptFlow

/-- The role of a node, which decides its shape and its colors. -/
inductive NodeKind where
  | input
  | process
  | output
  | decision
  | start
  | stop
  | artifact
  deriving DecidableEq, Repr

namespace NodeKind

/-- Every kind, in the order in which diagrams list them. -/
def all : List NodeKind :=
  [.input, .process, .output, .decision, .start, .stop, .artifact]

/-- The name of a kind. -/
def tag : NodeKind → Text
  | input => "input"
  | process => "process"
  | output => "output"
  | decision => "decision"
  | start => "start"
  | stop => "end"
  | artifact => "artifact"

/-- The kind with exactly this name. -/
def ofTag? (tag : Text) : Option NodeKind :=
  all.find? fun kind => kind.tag == tag

/-- The kind with a name, in any letter case and with blanks around. -/
def ofName? (name : Text) : Option NodeKind :=
  ofTag? (Text.toLower (Text.trim name))

/-- Reads the name of a kind. -/
def parse (name : Text) : Except SettingError NodeKind :=
  match ofName? name with
  | some kind => .ok kind
  | none => .error (.unknownNodeKind name)

end NodeKind

/-- Whether a node was annotated by hand or detected from code. -/
inductive Origin where
  | annotated
  | detected
  deriving DecidableEq, Repr

namespace Origin

/-- The name of an origin. -/
def tag : Origin → Text
  | annotated => "annotation"
  | detected => "detected"

/-- The origin with exactly this name. -/
def ofTag? (tag : Text) : Option Origin :=
  [Origin.annotated, .detected].find? fun origin => origin.tag == tag

end Origin

/-- One step of a workflow. -/
structure Node where
  fileName : Text := []
  filePath : FilePath := []
  fileType : Text := []
  id : Text := []
  label : Option Text := none
  kind : NodeKind := .process
  inputs : List Text := []
  outputs : List Text := []
  line : Option Nat := none
  /-- The scripts that this node sources or includes. -/
  dependencies : List Text := []
  origin : Origin := .annotated
  /-- The properties that have no column of their own. -/
  extra : KeyMap Text := .empty
  deriving DecidableEq, Repr, Inhabited

namespace Node

/-- The node in a file, whose name is that of the path. -/
def inFile (node : Node) (path : FilePath) (fileType : Text) : Node :=
  { node with filePath := path, fileName := FilePath.fileName path, fileType }

/-- The label unless it is blank, else the identifier, else the file name. -/
def displayLabel (node : Node) : Text :=
  let fallback := if node.id.isEmpty then node.fileName else node.id
  match node.label with
  | some label => if (Text.trim label).isEmpty then fallback else label
  | none => fallback

end Node

/-- Whether a token stands for a value that never becomes a file. -/
def isInternal (token : Text) : Bool :=
  Text.endsWith ".internal" token

end ScriptFlow
