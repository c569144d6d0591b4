import ScriptFlow.Annotation.Draft
import ScriptFlow.Fresh
import ScriptFlow.Issue

/-!
# Identifiers of nodes

Identifiers that were given are kept, and giving one twice is an issue.  The other
nodes get one made of their script's stem and their line; all given identifiers
are taken before the first is made, so none is ever made that was given.
-/

namespace ScriptFlow

namespace Draft

/-- Whether an identifier was given that is not blank. -/
def hasGivenId (draft : Draft) : Bool :=
  !draft.needsId && !draft.node.id.isEmpty

/-- The nodes whose identifier was given. -/
def givenNodes (drafts : List Draft) : List Node :=
  (drafts.filter hasGivenId).map Draft.node

/-- The issue of a node whose identifier an earlier one has. -/
def duplicateIssue (earlier node : Node) : Issue :=
  let path := Text.shown earlier.filePath
  let place :=
    match earlier.line with
    | some line => path ++ ":" ++ Text.ofNat line
    | none => path
  { kind := .validation
    file := node.filePath
    line := node.line
    message := "Duplicate id '" ++ node.id ++ "' (first used at " ++ place ++ ")" }

/-- The issues of the nodes whose identifier occurred before, given the first
node of each identifier so far. -/
def duplicatesFrom (firsts : List Node) : List Node → List Issue
  | [] => []
  | node :: rest =>
    match firsts.find? fun first => first.id == node.id with
    | some earlier => duplicateIssue earlier node :: duplicatesFrom firsts rest
    | none => duplicatesFrom (node :: firsts) rest

/-- The issues about identifiers that were given more than once. -/
def duplicateIssues (drafts : List Draft) : List Issue :=
  duplicatesFrom [] (givenNodes drafts)

/-- What a made identifier starts with. -/
def idBase (node : Node) : Text :=
  let stem :=
    match Path.stem? node.fileName with
    | some (c :: rest) => c :: rest
    | _ => "node"
  match node.line with
  | some line => stem ++ "_" ++ Text.ofNat line
  | none => stem ++ "_auto"

/-- The nodes of the drafts with identifiers made where none was given. -/
def nameFrom (taken : List Text) : List Draft → List Node
  | [] => []
  | draft :: rest =>
    if draft.needsId then
      let id := Fresh.name taken (idBase draft.node)
      { draft.node with id } :: nameFrom (id :: taken) rest
    else draft.node :: nameFrom taken rest

/-- Every draft becomes a node. -/
@[simp] theorem length_nameFrom (taken : List Text) (drafts : List Draft) :
    (nameFrom taken drafts).length = drafts.length := by
  induction drafts generalizing taken with
  | nil => rfl
  | cons draft rest ih =>
    simp only [nameFrom]
    split <;> simp [ih]

/-- The nodes of the drafts, each with its identifier. -/
def toNodes (drafts : List Draft) : List Node :=
  nameFrom ((givenNodes drafts).map Node.id) drafts

end Draft

end ScriptFlow
