import ScriptFlow.Annotation.Property
import ScriptFlow.Language
import ScriptFlow.Node

/-!
# Writing annotations

`Property.written` spells a property list as an annotation, on one line or with
one property a line.  Values stand in double quotes, or in single quotes if they
hold a double one.  A value with both quotes or a line end has no spelling, nor
has a list that is empty or a key that is no identifier.
-/

namespace ScriptFlow

/-- How an annotation is laid out. -/
inductive AnnotationLayout where
  /-- All properties on the line of the head. -/
  | singleLine
  /-- One property a line, continued by backslashes. -/
  | multiline
  deriving DecidableEq, Repr

/-- Why a value has no spelling. -/
inductive UnquotableReason where
  | lineBreak
  | bothQuotes
  deriving DecidableEq, Repr

namespace UnquotableReason

/-- The wording of a reason. -/
def message : UnquotableReason → Text
  | lineBreak => "contains a line break"
  | bothQuotes => "contains both quote characters"

end UnquotableReason

/-- Why a property list has no spelling. -/
inductive SpellingError where
  | empty
  | invalidKey (key : Text)
  | unquotableValue (key : Text) (reason : UnquotableReason)
  deriving DecidableEq, Repr

namespace SpellingError

/-- The wording of an error. -/
def message : SpellingError → Text
  | empty => "Annotation has no properties"
  | invalidKey key => "Property name '" ++ key ++ "' is not a valid identifier"
  | unquotableValue key reason =>
    "Value for '" ++ key ++ "' cannot be quoted: " ++ reason.message

end SpellingError

namespace Property

/-- The spelling of one property. -/
def spell (p : Property) : Except SpellingError Text :=
  if !Text.isIdentifier p.key then .error (.invalidKey p.key)
  else if p.value.contains '\n' || p.value.contains '\r' then
    .error (.unquotableValue p.key .lineBreak)
  else if !p.value.contains '"' then .ok (p.key ++ [':', '"'] ++ p.value ++ ['"'])
  else if !p.value.contains '\'' then .ok (p.key ++ [':', '\''] ++ p.value ++ ['\''])
  else .error (.unquotableValue p.key .bothQuotes)

/-- The continuation lines of an annotation with one property a line. -/
def continuationLines (mark : Text) : List Text → List Text
  | [] => []
  | [spelled] => [mark ++ "    " ++ spelled]
  | spelled :: rest => (mark ++ "    " ++ spelled ++ ", \\") :: continuationLines mark rest

/-- The annotation with these spelled properties. -/
def layOut (mark : Text) (layout : AnnotationLayout) (spelled : List Text) : Text :=
  match layout, spelled with
  | .multiline, first :: second :: rest =>
    Text.join ['\n']
      ((mark ++ " put " ++ first ++ ", \\") :: continuationLines mark (second :: rest))
  | _, spelled => mark ++ " put " ++ Text.join ", " spelled

/-- The annotation that spells a property list in a family of comments. -/
def written (properties : List Property) (group : CommentGroup)
    (layout : AnnotationLayout) : Except SpellingError Text :=
  if properties.isEmpty then .error .empty
  else (properties.mapM spell).map (layOut group.mark layout)

end Property

/-- An annotation suggested for a node. -/
structure Suggestion where
  file : FilePath
  nodeId : Text
  text : Text
  deriving DecidableEq, Repr

namespace Node

/-- The properties that describe a node: its columns, then its extra ones. -/
def properties (node : Node) : List Property :=
  let files (key : Text) (tokens : List Text) : List Property :=
    if tokens.isEmpty then [] else [⟨key, Text.join ", " tokens⟩]
  let id : List Property := [⟨"id", node.id⟩]
  let label : List Property := node.label.toList.map (⟨"label", ·⟩)
  let kind : List Property := [⟨"node_type", node.kind.tag⟩]
  let extra : List Property := node.extra.toList.map fun (key, value) => ⟨key, value⟩
  id ++ label ++ kind ++ files "input" (node.inputs ++ node.dependencies) ++
    files "output" node.outputs ++ extra

/-- The annotation of a node, in the comments of its file type. -/
def suggestedText (layout : AnnotationLayout) (node : Node) : Except SpellingError Text :=
  let group := ((Language.ofTag? node.fileType).map Language.group).getD .hash
  Property.written node.properties group layout

/-- The annotation suggested for a node. -/
def suggestion (layout : AnnotationLayout) (node : Node) :
    Except SpellingError Suggestion :=
  (node.suggestedText layout).map fun text => ⟨node.filePath, node.id, text⟩

/-- The annotations suggested for nodes, or the first error. -/
def suggestions (layout : AnnotationLayout) (nodes : List Node) :
    Except SpellingError (List Suggestion) :=
  nodes.mapM (suggestion layout)

end Node

end ScriptFlow
