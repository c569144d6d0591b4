import ScriptFlow.Annotation.Draft
import ScriptFlow.Reference.Basic
import ScriptFlow.Scan.Options

/-!
# Combining drafts

The draft of the node that a script is detected to be, and how it is combined
with the drafts annotated in the script.
-/

namespace ScriptFlow

namespace Draft

/-- The draft of the node for the files that a script refers to. -/
def ofReferences (script : ScriptRef) (files : References) : Draft where
  node :=
    { fileName := script.fileName
      filePath := script.path
      fileType := script.language.tag
      label := some script.fileName
      inputs := files.inputs
      outputs := if files.outputs.isEmpty then [script.fileName] else files.outputs
      dependencies := files.dependencies
      origin := .detected }
  needsId := true
  outputDefaulted := files.outputs.isEmpty

/-- The draft of the node that a script is detected to be, if it refers to any
file. -/
def detected? (script : ScriptRef) (files : References) : Option Draft :=
  if files.isEmpty then none else some (ofReferences script files)

/-- The outputs that were given. -/
def givenOutputs (draft : Draft) : List Text :=
  if draft.outputDefaulted then [] else draft.node.outputs

/-- Whether a token occurs in what a draft reads, writes or sources. -/
def declares (draft : Draft) (token : Text) : Bool :=
  draft.node.inputs.contains token || draft.givenOutputs.contains token ||
    draft.node.dependencies.contains token

/-- The tokens that none of some drafts declares. -/
def undeclared (drafts : List Draft) (tokens : List Text) : List Text :=
  tokens.filter fun token => !drafts.any fun draft => draft.declares token

/-- A draft with further files; given outputs replace the standard one. -/
def extend (draft : Draft) (inputs outputs dependencies : List Text) : Draft :=
  { draft with
    node :=
      { draft.node with
        inputs := draft.node.inputs ++ inputs
        outputs := if outputs.isEmpty then draft.node.outputs else draft.givenOutputs ++ outputs
        dependencies := draft.node.dependencies ++ dependencies }
    outputDefaulted := draft.outputDefaulted && outputs.isEmpty }

/-- Adds what was detected and not declared to the first of the drafts. -/
def supplement (drafts : List Draft) (found : Draft) : List Draft :=
  match drafts with
  | [] => [found]
  | first :: rest =>
    first.extend (undeclared drafts found.node.inputs) (undeclared drafts found.givenOutputs)
      (undeclared drafts found.node.dependencies) :: rest

/-- Combines the annotated drafts of a script with the detected one. -/
def merge (strategy : MergeStrategy) (drafts : List Draft) : Option Draft → List Draft
  | none => drafts
  | some found =>
    if drafts.isEmpty then [found]
    else
      match strategy with
      | .manualPriority => drafts
      | .union => drafts ++ [found]
      | .supplement => supplement drafts found

end Draft

end ScriptFlow
