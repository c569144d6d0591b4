import ScriptFlow.Json.Basic
import ScriptFlow.Table.Basic

/-!
# Tables as JSON

A node is an object with its columns as members and its extra properties beside
them.  A table is an object of its nodes and its issues, or an array of the two;
an issue is an object or an array of its four columns.

Writing fails when a path is no text, as JSON holds texts only.

Reading is strict about the columns: none may be repeated, required ones must be
there, and the names of kinds are exact.  Members that are no column are ignored
in a table and in an issue; in a node they are extra properties and must be
strings, of which the last counts.
-/

namespace ScriptFlow

namespace Json

/-- The member of a column that must not be repeated. -/
inductive Column where
  | missing
  | once (value : Json)
  | repeated

/-- The member of a column. -/
def column (key : Text) (members : List (Text × Json)) : Column :=
  match valuesOf key members with
  | [] => .missing
  | [value] => .once value
  | _ => .repeated

/-- Reads a column that must be there. -/
def required? {α : Type} (key : Text) (read : Json → Option α)
    (members : List (Text × Json)) : Option α :=
  match column key members with
  | .once value => read value
  | _ => none

/-- Reads a column that has a standard value. -/
def withStandard? {α : Type} (key : Text) (standard : α) (read : Json → Option α)
    (members : List (Text × Json)) : Option α :=
  match column key members with
  | .missing => some standard
  | .once value => read value
  | .repeated => none

/-- The member of a column that may be left out. -/
def optionalMember {α : Type} (key : Text) (write : α → Json) :
    Option α → List (Text × Json)
  | none => []
  | some value => [(key, write value)]

/-- Reads a name: a string, or an object whose one member has it as key and
`null` as value. -/
def name? {α : Type} (ofTag? : Text → Option α) : Json → Option α
  | .str tag => ofTag? tag
  | .obj [(tag, .null)] => ofTag? tag
  | _ => none

end Json

/-- Why a table cannot be written. -/
inductive TableError where
  | pathNotText
  deriving DecidableEq, Repr

namespace TableError

/-- The wording of an error. -/
def message : TableError → Text
  | pathNotText => "path contains invalid UTF-8 characters"

end TableError

/-- The text of a path, as it is written. -/
def FilePath.written (path : FilePath) : Except TableError Text :=
  match Text.ofUtf8? path with
  | some text => .ok text
  | none => .error .pathNotText

/-! ### Nodes -/

namespace Node

/-- The names of the columns of a node. -/
def columns : List Text :=
  ["file_name", "file_path", "file_type", "id", "label", "node_type", "input", "output",
    "line_number", "dependencies", "origin"]

/-- The members of a node whose path is a text, columns first. -/
def members (node : Node) (path : Text) : List (Text × Json) :=
  let columns : List (Text × Json) :=
    [("file_name", .str node.fileName), ("file_path", .str path),
      ("file_type", .str node.fileType), ("id", .str node.id),
      ("label", Json.ofOption .str node.label), ("node_type", .str node.kind.tag),
      ("input", Json.ofTexts node.inputs), ("output", Json.ofTexts node.outputs)]
  let line := Json.optionalMember "line_number" .nat node.line
  let dependencies :=
    Json.optionalMember "dependencies" Json.ofTexts
      (if node.dependencies.isEmpty then none else some node.dependencies)
  let origin : List (Text × Json) := [("origin", .str node.origin.tag)]
  let extra := node.extra.toList.map fun (key, value) => (key, Json.str value)
  columns ++ line ++ dependencies ++ origin ++ extra

/-- A node as an object. -/
def toJson (node : Node) : Except TableError Json :=
  (FilePath.written node.filePath).map fun path => .obj (node.members path)

/-- The extra properties among the members of a node. -/
def readExtra? (members : List (Text × Json)) : Option (KeyMap Text) :=
  let others := members.filter fun member => !columns.contains member.1
  let pairs := others.mapM fun member => member.2.text?.map fun value => (member.1, value)
  pairs.map KeyMap.ofList

/-- Reads a node from the members of an object. -/
def ofMembers? (members : List (Text × Json)) : Option Node := do
  let fileName ← Json.required? "file_name" Json.text? members
  let filePath ← Json.required? "file_path" Json.text? members
  let fileType ← Json.required? "file_type" Json.text? members
  let id ← Json.required? "id" Json.text? members
  let label ← Json.withStandard? "label" none (Json.orNull? Json.text?) members
  let kind ← Json.withStandard? "node_type" .process (Json.name? NodeKind.ofTag?) members
  let inputs ← Json.withStandard? "input" [] Json.texts? members
  let outputs ← Json.withStandard? "output" [] Json.texts? members
  let line ← Json.withStandard? "line_number" none (Json.orNull? Json.word?) members
  let dependencies ← Json.withStandard? "dependencies" [] Json.texts? members
  let origin ← Json.withStandard? "origin" .annotated (Json.name? Origin.ofTag?) members
  let extra ← readExtra? members
  some
    { fileName, filePath, fileType, id, label, kind, inputs, outputs, line, dependencies,
      origin, extra }

/-- Reads a node. -/
def ofJson? (value : Json) : Option Node :=
  value.members?.bind ofMembers?

end Node

/-! ### Issues -/

namespace Issue

/-- The members of an issue in a file whose path is a text. -/
def members (issue : Issue) (file : Text) : List (Text × Json) :=
  let place : List (Text × Json) := [("kind", .str issue.kind.tag), ("file", .str file)]
  let line := Json.optionalMember "line" .nat issue.line
  let message : List (Text × Json) := [("message", .str issue.message)]
  place ++ line ++ message

/-- An issue as an object. -/
def toJson (issue : Issue) : Except TableError Json :=
  (FilePath.written issue.file).map fun file => .obj (issue.members file)

/-- Reads an issue. -/
def ofJson? : Json → Option Issue
  | .obj members => do
    let kind ← Json.required? "kind" (Json.name? IssueKind.ofTag?) members
    let file ← Json.required? "file" Json.text? members
    let line ← Json.withStandard? "line" none (Json.orNull? Json.word?) members
    let message ← Json.required? "message" Json.text? members
    some { kind, file, line, message }
  | .arr [kind, file, line, message] => do
    let kind ← Json.name? IssueKind.ofTag? kind
    let file ← file.text?
    let line ← Json.orNull? Json.word? line
    let message ← message.text?
    some { kind, file, line, message }
  | _ => none

end Issue

/-! ### Tables -/

namespace Table

/-- The nodes of a table as an array. -/
def rowsJson (table : Table) : Except TableError Json :=
  (table.nodes.mapM Node.toJson).map .arr

/-- A table as an object. -/
def toJson (table : Table) : Except TableError Json := do
  let nodes ← table.rowsJson
  let issues ← table.issues.mapM Issue.toJson
  return .obj [("nodes", nodes), ("issues", .arr issues)]

/-- Reads an array of nodes. -/
def readNodes? (value : Json) : Option (List Node) :=
  value.elements?.bind fun elements => elements.mapM Node.ofJson?

/-- Reads an array of issues. -/
def readIssues? (value : Json) : Option (List Issue) :=
  value.elements?.bind fun elements => elements.mapM Issue.ofJson?

/-- Reads a table. -/
def ofJson? : Json → Option Table
  | .obj members => do
    let nodes ← Json.required? "nodes" readNodes? members
    let issues ← Json.withStandard? "issues" [] readIssues? members
    some { nodes, issues }
  | .arr [nodes] => do
    let nodes ← readNodes? nodes
    some { nodes }
  | .arr [nodes, issues] => do
    let nodes ← readNodes? nodes
    let issues ← readIssues? issues
    some { nodes, issues }
  | _ => none

end Table

end ScriptFlow
