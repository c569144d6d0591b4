import ScriptFlow.Diagram.Ident
import ScriptFlow.Diagram.Label
import ScriptFlow.Diagram.Line

/-!
# Diagrams

`Diagram.ofNodes` draws the nodes of a table as a flowchart.  Nodes come in the
order of the table, connections in the order of the graph, styles in the order of
`NodeKind.all`.

Identifiers are handed out first to the nodes, then to the groups, then to what
the nodes read and write, so that each part of a diagram looks the same whether
or not later parts are drawn.
-/

namespace ScriptFlow

/-- A fallback that was taken while drawing. -/
inductive DiagramWarning where
  | unknownTheme (name : Text)
  deriving DecidableEq, Repr

namespace DiagramWarning

/-- The wording of a warning. -/
def message : DiagramWarning → Text
  | unknownTheme name =>
    "Unknown theme '" ++ name ++ "'; using '" ++ Theme.standard.name ++ "'"

end DiagramWarning

/-- A drawn table. -/
structure Diagram where
  lines : List DiagramLine
  warnings : List DiagramWarning
  deriving DecidableEq, Repr

/-- A node with the identifier it has in a diagram. -/
structure DrawnNode where
  node : Node
  id : Text
  deriving DecidableEq, Repr

/-- The nodes of one script, with the path of the first. -/
structure NodeGroup where
  path : FilePath
  members : List DrawnNode
  deriving DecidableEq, Repr

namespace DiagramOptions

/-- The palette to draw with, and the fallback taken to find it. -/
def resolvePalette (options : DiagramOptions) : Palette × List DiagramWarning :=
  match options.palette with
  | some palette => (palette, [])
  | none =>
    match Theme.ofName? options.theme with
    | some theme => ({ base := theme }, [])
    | none => ({ base := Theme.standard }, [.unknownTheme options.theme])

/-- The kind that a node is drawn as. -/
def drawnKind (options : DiagramOptions) (node : Node) : NodeKind :=
  if !options.boundaries && (node.kind = .start || node.kind = .stop) then .process
  else node.kind

/-- The text in a node, before it is made safe. -/
def nodeText (options : DiagramOptions) (node : Node) : Text :=
  match options.labels with
  | .label => node.displayLabel
  | .id => if node.id.isEmpty then node.displayLabel else node.id
  | .both =>
    match node.label.map Text.trim with
    | none => node.displayLabel
    | some label =>
      if label.isEmpty || node.id.isEmpty then node.displayLabel
      else label ++ " (" ++ node.id ++ ")"

/-- The line that defines a node. -/
def nodeLine (options : DiagramOptions) (grouped : Bool) (drawn : DrawnNode) : DiagramLine :=
  .node grouped drawn.id (Label.escape (options.nodeText drawn.node))
    (options.drawnKind drawn.node)

end DiagramOptions

namespace NodeGroup

/-- The groups with a node added to the one of its path, or to a new one. -/
def insert (drawn : DrawnNode) : List NodeGroup → List NodeGroup
  | [] => [⟨drawn.node.filePath, [drawn]⟩]
  | group :: rest =>
    if Path.samePlace group.path drawn.node.filePath then
      { group with members := group.members ++ [drawn] } :: rest
    else group :: insert drawn rest

/-- The nodes by path, in the order of first mention. -/
def ofNodes (drawn : List DrawnNode) : List NodeGroup :=
  drawn.foldl (fun groups d => insert d groups) []

/-- The name of a group. -/
def name (group : NodeGroup) : Text :=
  Text.shown ((Path.fileName? group.path).getD group.path)

/-- The lines of a group. -/
def lines (options : DiagramOptions) (group : NodeGroup) (id : Text) : List DiagramLine :=
  [.groupStart id (Label.escape group.name)] ++
    group.members.map (options.nodeLine true) ++ [.groupEnd]

end NodeGroup

namespace Diagram

/-! ### Parts of a diagram -/

/-- The title as a comment, if one is set. -/
def titleLines (options : DiagramOptions) : List DiagramLine :=
  options.title.toList.map fun title =>
    let oneLine := title.map fun c => if c == '\r' || c == '\n' then ' ' else c
    .title (Text.trim oneLine)

/-- Whether a node is outside every group. -/
def isLoose (options : DiagramOptions) (drawn : DrawnNode) : Bool :=
  !options.groupByFile || drawn.node.filePath.isEmpty

/-- The groups to draw. -/
def groups (options : DiagramOptions) (drawn : List DrawnNode) : List NodeGroup :=
  NodeGroup.ofNodes (drawn.filter fun d => !isLoose options d)

/-- The identifiers of the groups. -/
def groupIds (taken : List Text) (groups : List NodeGroup) : List Text :=
  Ident.allocate taken (groups.map fun group => "file_" ++ group.name)

/-- The lines that define the nodes, those without a group first. -/
def nodeLines (options : DiagramOptions) (drawn : List DrawnNode) (groups : List NodeGroup)
    (groupIds : List Text) : List DiagramLine :=
  (drawn.filter (isLoose options)).map (options.nodeLine false) ++
    (groups.zip groupIds).flatMap fun (group, id) => group.lines options id

/-- The connections, node to node. -/
def edgeLines (options : DiagramOptions) (ids : List Text) (graph : Graph) :
    List DiagramLine :=
  graph.edges.map fun edge =>
    let label := if options.showFiles then some (Label.escape edge.token) else none
    .edge (ids.getD edge.source []) edge.kind label (ids.getD edge.target [])

/-- What the nodes write and read, each once, in the order of first mention. -/
def artifacts (drawn : List DrawnNode) : List Text :=
  (drawn.flatMap fun d => Node.tokens (d.node.outputs ++ d.node.inputs)).eraseDups

/-- The identifiers of what the nodes write and read. -/
def artifactIds (taken : List Text) (artifacts : List Text) : List Text :=
  Ident.allocate taken (artifacts.map fun token => "artifact_" ++ token)

/-- A connection without a label. -/
structure Arrow where
  source : Text
  kind : EdgeKind
  target : Text
  deriving DecidableEq, Repr

/-- The connections from the nodes to what they write, from what they read to the
nodes, and along dependencies; no two of them join the same two ends. -/
def artifactArrows (drawn : List DrawnNode) (graph : Graph) (ids : List (Text × Text)) :
    List Arrow :=
  let idOf := fun (token : Text) => (ids.find? fun entry => entry.1 == token).map Prod.snd
  let written := drawn.flatMap fun d =>
    ((Node.tokens d.node.outputs).filterMap idOf).map fun id => Arrow.mk d.id .data id
  let read := drawn.flatMap fun d =>
    ((Node.tokens d.node.inputs).filterMap idOf).map fun id => Arrow.mk id .data d.id
  let nodeIds := drawn.map DrawnNode.id
  let sourced := (graph.edges.filter fun edge => edge.kind == .dependency).map fun edge =>
    Arrow.mk (nodeIds.getD edge.source []) .dependency (nodeIds.getD edge.target [])
  (written ++ read ++ sourced).eraseDupsBy fun a b =>
    a.source == b.source && a.target == b.target

/-- The lines that draw what the nodes write and read. -/
def artifactLines (drawn : List DrawnNode) (graph : Graph) (ids : List (Text × Text)) :
    List DiagramLine :=
  (ids.map fun (token, id) => .node false id (Label.escape token) .artifact) ++
    (artifactArrows drawn graph ids).map fun a => .edge a.source a.kind none a.target

/-- The identifiers drawn as a kind. -/
def membersOf (options : DiagramOptions) (drawn : List DrawnNode) (artifactIds : List Text)
    (kind : NodeKind) : List Text :=
  (drawn.filter fun d => options.drawnKind d.node == kind).map DrawnNode.id ++
    (if kind = .artifact then artifactIds else [])

/-- The styles of the kinds that occur, and the identifiers that have them. -/
def styleLines (options : DiagramOptions) (palette : Palette) (drawn : List DrawnNode)
    (artifactIds : List Text) : List DiagramLine :=
  let present := NodeKind.all.filter fun kind =>
    !(membersOf options drawn artifactIds kind).isEmpty
  (present.map fun kind => .style kind (palette.style kind)) ++
    present.map fun kind => .members kind (membersOf options drawn artifactIds kind)

/-- The links of the nodes that have a path. -/
def linkLines (options : DiagramOptions) (drawn : List DrawnNode) : List DiagramLine :=
  match options.links with
  | none => []
  | some scheme =>
    (drawn.filter fun d => !d.node.filePath.isEmpty).map fun d =>
      .link d.id (Link.uri scheme (Text.shown d.node.filePath) d.node.line)

/-! ### The whole diagram -/

/-- The lines below the title of a diagram with nodes. -/
def body (options : DiagramOptions) (palette : Palette) (nodes : List Node) :
    List DiagramLine :=
  let ids := Ident.allocate [] (nodes.map Node.id)
  let drawn := (nodes.zip ids).map fun (node, id) => DrawnNode.mk node id
  let graph := Graph.ofNodes nodes
  let groups := groups options drawn
  let groupIds := groupIds ids groups
  let artifacts := if options.showArtifacts then artifacts drawn else []
  let artifactIds := artifactIds (groupIds ++ ids) artifacts
  let connections :=
    if options.showArtifacts then artifactLines drawn graph (artifacts.zip artifactIds)
    else edgeLines options ids graph
  let styles := if options.styled then styleLines options palette drawn artifactIds else []
  nodeLines options drawn groups groupIds ++ connections ++ styles ++ linkLines options drawn

/-- Draws nodes. -/
def ofNodes (options : DiagramOptions) (nodes : List Node) : Diagram :=
  let (palette, warnings) := options.resolvePalette
  let body := if nodes.isEmpty then [.placeholder] else body options palette nodes
  { lines := .header options.direction :: titleLines options ++ body, warnings }

/-- The text of a diagram. -/
def text (diagram : Diagram) : Text :=
  Text.join ['\n'] (diagram.lines.map DiagramLine.text)

end Diagram

end ScriptFlow
