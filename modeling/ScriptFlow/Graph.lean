import ScriptFlow.Language
import ScriptFlow.Node

/-!
# Workflow graphs

The connections between the nodes of a table.  A node that writes a file leads to
every other node that reads it, and a script that is sourced leads to the one
that sources it.  Tokens are compared without the blanks around them, blank ones
connect nothing, and no node leads to itself.

Edges along data come first, ordered by writer, reader and output; edges along
dependencies follow, ordered by sourcing node, dependency and sourced node.
-/

namespace ScriptFlow

/-- What an edge stands for. -/
inductive EdgeKind where
  /-- The target reads what the source writes. -/
  | data
  /-- The target sources or includes the source. -/
  | dependency
  deriving DecidableEq, Repr

/-- A connection between the nodes at two positions. -/
structure Edge where
  source : Nat
  target : Nat
  token : Text
  kind : EdgeKind
  deriving DecidableEq, Repr

/-- The connections between a number of nodes. -/
structure Graph where
  nodeCount : Nat
  edges : List Edge
  deriving DecidableEq, Repr

/-- Whether a dependency, written in a script of a given type, means the file
with a name.  A dependency without an extension means every file of that stem
whose extension belongs to the language of the script. -/
def namesFile (token : Path) (fileType fileName : Text) : Bool :=
  match Path.fileName? token with
  | none => false
  | some last =>
    let sameStem := Path.stem? fileName == some last
    let fits :=
      match Language.ofTag? fileType, Path.extension? fileName with
      | some language, some extension => language.extensions.contains (Text.toLower extension)
      | _, _ => false
    !fileName.isEmpty &&
      (token == fileName || last == fileName ||
        ((Path.extension? token).isNone && sameStem && fits))

namespace Node

/-- The tokens of a list without the blanks around them, blank ones left out. -/
def tokens (list : List Text) : List Text :=
  (list.map Text.trim).filter fun token => !token.isEmpty

/-- Whether a node reads what a token stands for. -/
def reads (node : Node) (token : Text) : Bool :=
  node.inputs.any fun input => Text.trim input == token

/-- Whether a node writes what a token stands for. -/
def writes (node : Node) (token : Text) : Bool :=
  node.outputs.any fun output => Text.trim output == token

/-- Whether a node is what a dependency of a script of a given type means. -/
def provides (node : Node) (fileType token : Text) : Bool :=
  node.writes token || namesFile token fileType node.fileName

end Node

namespace Graph

/-- The edges along data from one node to another. -/
def dataEdges (writer reader : Node × Nat) : List Edge :=
  if writer.2 = reader.2 then []
  else
    ((Node.tokens writer.1.outputs).filter reader.1.reads).map fun token =>
      ⟨writer.2, reader.2, token, .data⟩

/-- The edges along one dependency of a node. -/
def dependencyEdges (nodes : List (Node × Nat)) (sourcing : Node × Nat) (token : Text) :
    List Edge :=
  let sources := nodes.filter fun sourced =>
    sourced.2 != sourcing.2 && sourced.1.provides sourcing.1.fileType token
  sources.map fun sourced => ⟨sourced.2, sourcing.2, token, .dependency⟩

/-- The connections between some nodes. -/
def ofNodes (nodes : List Node) : Graph :=
  let numbered := nodes.zipIdx
  let data := numbered.flatMap fun writer =>
    numbered.flatMap fun reader => dataEdges writer reader
  let dependencies := numbered.flatMap fun sourcing =>
    (Node.tokens sourcing.1.dependencies).flatMap (dependencyEdges numbered sourcing)
  { nodeCount := nodes.length, edges := data ++ dependencies }

/-- The edges that lead to a node. -/
def incoming (graph : Graph) (index : Nat) : List Edge :=
  graph.edges.filter fun edge => edge.target == index

/-- The edges that lead from a node. -/
def outgoing (graph : Graph) (index : Nat) : List Edge :=
  graph.edges.filter fun edge => edge.source == index

/-- The positions of the nodes without any edge. -/
def isolated (graph : Graph) : List Nat :=
  (List.range graph.nodeCount).filter fun index =>
    !graph.edges.any fun edge => edge.source == index || edge.target == index

/-- A node is isolated when no edge leads to it and none from it. -/
theorem mem_isolated {graph : Graph} {index : Nat} :
    index ∈ graph.isolated ↔
      index < graph.nodeCount ∧ graph.incoming index = [] ∧ graph.outgoing index = [] := by
  simp only [isolated, incoming, outgoing, List.mem_filter, List.mem_range,
    List.filter_eq_nil_iff]
  grind

end Graph

end ScriptFlow
