import ScriptFlow.Annotation.Basic
import ScriptFlow.Node

/-!
# Drafts of nodes

An annotation becomes the draft of a node: its properties fill the columns, what
is missing gets its standard value, and everything questionable is noted as a
warning.  A draft is complete but for an identifier that was not given, which
depends on all other nodes of the table.
-/

namespace ScriptFlow

/-- A script as nodes refer to it: what it is called, where it is and what it is
written in. -/
structure ScriptRef where
  fileName : Text
  path : FilePath
  language : Language
  deriving DecidableEq, Repr

namespace ScriptRef

/-- The script at a path, which is called by its file name. -/
def ofPath (path : FilePath) (language : Language) : ScriptRef where
  fileName := FilePath.fileName path
  path
  language

/-- The file name of a script without its extension. -/
def stem (script : ScriptRef) : Text :=
  (Path.stem? script.fileName).getD script.fileName

end ScriptRef

/-- What is questionable about an annotation. -/
inductive DraftWarning where
  | duplicateProperty (key : Text)
  | emptyLabel
  | missingLabel
  | emptyId
  | unknownKind (tag : Text)
  | internalInput (token : Text)
  | inputWithoutExtension (token : Text)
  | reservedColumn (key : Text)
  deriving DecidableEq, Repr

namespace DraftWarning

/-- The wording of a warning. -/
def message : DraftWarning → Text
  | duplicateProperty key => "Duplicate property '" ++ key ++ "'; the last value is used"
  | emptyLabel => "Empty 'label' property"
  | missingLabel => "Missing 'label' property"
  | emptyId => "Empty 'id' property; the node has no identifier"
  | unknownKind tag => "Unknown node_type '" ++ tag ++ "'; using 'process'"
  | internalInput token =>
    "'" ++ token ++ "' is used as an input, but .internal values are output-only"
  | inputWithoutExtension token =>
    "Input '" ++ token ++ "' may be missing a file extension"
  | reservedColumn key => "'" ++ key ++ "' is a reserved column and was ignored"

end DraftWarning

/-- A node on its way into the table. -/
structure Draft where
  node : Node
  /-- No identifier was given, so one is to be made. -/
  needsId : Bool
  /-- The only output is the script itself, because none was given. -/
  outputDefaulted : Bool
  deriving DecidableEq, Repr

namespace Draft

/-- The keys whose values fill columns of a node. -/
def canonicalKeys : List Text :=
  ["id", "label", "node_type", "input", "output"]

/-- The columns that describe the script and that no property can set. -/
def reservedKeys : List Text :=
  ["file_name", "file_path", "file_type", "line_number", "dependencies", "origin"]

/-- Whether a key is carried along as an extra property. -/
def isExtraKey (key : Text) : Bool :=
  !canonicalKeys.contains key && !reservedKeys.contains key

/-! ### Columns -/

/-- The label that an annotation gives. -/
def label (properties : List Property) : Option Text :=
  match (Property.lookup? "label" properties).map Text.trim with
  | some [] => none
  | label => label

/-- The identifier that an annotation gives, blank or not. -/
def id? (properties : List Property) : Option Text :=
  (Property.lookup? "id" properties).map Text.trim

/-- The kind that an annotation gives. -/
def kind (properties : List Property) : NodeKind :=
  ((Property.lookup? "node_type" properties).bind NodeKind.ofName?).getD .process

/-- The files of a list property. -/
def files (key : Text) (properties : List Property) : List Text :=
  ((Property.lookup? key properties).map Text.commaList).getD []

/-- The properties without a column of their own. -/
def extra (properties : List Property) : KeyMap Text :=
  KeyMap.ofList ((properties.filter fun p => isExtraKey p.key).map fun p => (p.key, p.value))

/-- The draft of the node that an annotation in a script stands for. -/
def build (script : ScriptRef) (a : Annotation) : Draft :=
  let id := id? a.properties
  let outputs := files "output" a.properties
  { node :=
      { fileName := script.fileName
        filePath := script.path
        fileType := script.language.tag
        id := id.getD []
        label := label a.properties
        kind := kind a.properties
        inputs := files "input" a.properties
        outputs := if outputs.isEmpty then [script.fileName] else outputs
        line := some a.line
        origin := .annotated
        extra := extra a.properties }
    needsId := id.isNone
    outputDefaulted := outputs.isEmpty }

/-! ### Warnings -/

/-- The keys that occurred before, once for each further occurrence. -/
def repeatedKeys : List Text → List Text → List Text
  | _, [] => []
  | seen, key :: rest =>
    if seen.contains key then key :: repeatedKeys seen rest
    else repeatedKeys (key :: seen) rest

/-- Whether a token ends in an extension of letters, digits and `_`. -/
def hasPlainExtension (token : Path) : Bool :=
  match Path.extension? token with
  | some extension =>
    !extension.isEmpty && extension.all fun c => c.isAlphanum || c == '_'
  | none => false

/-- The warning about a label. -/
def labelWarnings (properties : List Property) : List DraftWarning :=
  match (Property.lookup? "label" properties).map Text.trim with
  | none => [.missingLabel]
  | some [] => [.emptyLabel]
  | some _ => []

/-- The warning about an identifier. -/
def idWarnings (properties : List Property) : List DraftWarning :=
  match id? properties with
  | some [] => [.emptyId]
  | _ => []

/-- The warning about a kind. -/
def kindWarnings (properties : List Property) : List DraftWarning :=
  match (Property.lookup? "node_type" properties).map Text.trim with
  | none => []
  | some [] => []
  | some tag => if (NodeKind.ofName? tag).isSome then [] else [.unknownKind tag]

/-- The warning about an input. -/
def inputWarnings (token : Text) : List DraftWarning :=
  if isInternal token then [.internalInput token]
  else if hasPlainExtension token then []
  else [.inputWithoutExtension token]

/-- Everything questionable about an annotation. -/
def warnings (a : Annotation) : List DraftWarning :=
  let keys := a.properties.map Property.key
  (repeatedKeys [] keys).map .duplicateProperty ++
    labelWarnings a.properties ++ idWarnings a.properties ++ kindWarnings a.properties ++
    (files "input" a.properties).flatMap inputWarnings ++
    (keys.filter reservedKeys.contains).map .reservedColumn

end Draft

end ScriptFlow
