import Mathlib.Data.List.Perm.Basic
import ScriptFlow.Proofs.Diagram.Groups
import ScriptFlow.Proofs.Diagram.Lines

/-!
# The identifiers in a diagram

The lines of a diagram fall into those that declare an identifier and those that
refer to some.  A `Naming` says which identifier stands for which node, group and
token, and `Naming.IsUnambiguous` says when lines agree with it: they declare exactly
what the naming lists, each under an identifier of its own, and every line that refers
to identifiers refers to those of the nodes and tokens it is about.

Every diagram agrees with its naming (`isUnambiguous_naming`).  The three lists of
identifiers come from the same allocator, each with the ones before it taken, so the
distinctness of all of them is that of three calls.
-/

namespace ScriptFlow

open scoped List

/-! ## Declarations and references -/

/-- What a line adds to a diagram under an identifier. -/
inductive Declaration where
  /-- A node of the table, or a token that nodes read or write. -/
  | node (id label : Text) (kind : NodeKind)
  | group (id label : Text)
  deriving DecidableEq, Repr

/-- The identifier that is declared. -/
def Declaration.id : Declaration → Text
  | node id _ _ => id
  | group id _ => id

namespace DiagramLine

/-- What a line declares, if anything. -/
def declared? : DiagramLine → Option Declaration
  | node _ id label kind => some (.node id label kind)
  | groupStart id label => some (.group id label)
  | _ => none

/-- The identifiers that a line refers to. -/
def referred : DiagramLine → List Text
  | edge source _ _ target => [source, target]
  | members _ ids => ids
  | link id _ => [id]
  | _ => []

end DiagramLine

/-- Which identifiers stand for what in the diagram of some nodes. -/
structure Naming where
  /-- The identifiers of the nodes, in the order of the table. -/
  nodes : List Text
  /-- The paths that have a group, with its identifier. -/
  groups : List (FilePath × Text)
  /-- The tokens that are drawn, with their identifiers. -/
  artifacts : List (Text × Text)
  deriving DecidableEq, Repr

namespace Naming

variable (naming : Naming) (options : DiagramOptions) (nodes : List Node)

/-- What a diagram has to declare: each node with its label and kind, each group with
the name of its path, and each token. -/
def declarations : List Declaration :=
  ((nodes.zip naming.nodes).map fun (node, id) =>
      .node id (Label.escape (options.nodeText node)) (options.drawnKind node)) ++
    (naming.groups.map fun (path, id) =>
      .group id (Label.escape (Text.shown ((Path.fileName? path).getD path)))) ++
    naming.artifacts.map fun (token, id) => .node id (Label.escape token) .artifact

/-- The identifiers of the nodes that are drawn as a kind, and for the kind of tokens
those of the tokens as well. -/
def members (kind : NodeKind) : List Text :=
  ((nodes.zip naming.nodes).filter fun (node, _) => options.drawnKind node == kind).map Prod.snd ++
    if kind = .artifact then naming.artifacts.map Prod.snd else []

/-- The connections of a diagram with tokens: a node and a token it writes, a token and
a node that reads it, or two nodes along a dependency. -/
inductive Joins : Diagram.Arrow → Prop
  | written {node : Node} {id token artifact : Text} (hnode : (node, id) ∈ nodes.zip naming.nodes)
      (htoken : token ∈ Node.tokens node.outputs)
      (hartifact : (token, artifact) ∈ naming.artifacts) : Joins ⟨id, .data, artifact⟩
  | read {node : Node} {id token artifact : Text} (hnode : (node, id) ∈ nodes.zip naming.nodes)
      (htoken : token ∈ Node.tokens node.inputs)
      (hartifact : (token, artifact) ∈ naming.artifacts) : Joins ⟨artifact, .data, id⟩
  | sourced {edge : Edge} {source target : Text} (hedge : edge ∈ (Graph.ofNodes nodes).edges)
      (hkind : edge.kind = .dependency) (hsource : naming.nodes[edge.source]? = some source)
      (htarget : naming.nodes[edge.target]? = some target) : Joins ⟨source, .dependency, target⟩

/-- A line that refers to the identifiers of what it is about: a connection of the
graph, a connection of a token, the members of a kind, or the script of a node. -/
inductive Refers : DiagramLine → Prop
  | edge {edge : Edge} {source target : Text} (hplain : options.showArtifacts = false)
      (hedge : edge ∈ (Graph.ofNodes nodes).edges)
      (hsource : naming.nodes[edge.source]? = some source)
      (htarget : naming.nodes[edge.target]? = some target) :
      Refers (.edge source edge.kind
        (if options.showFiles then some (Label.escape edge.token) else none) target)
  | arrow {a : Diagram.Arrow} (hshown : options.showArtifacts = true)
      (hjoins : naming.Joins nodes a) : Refers (.edge a.source a.kind none a.target)
  | members (kind : NodeKind) : Refers (.members kind (naming.members options nodes kind))
  | link {node : Node} {id : Text} {scheme : LinkScheme}
      (hnode : (node, id) ∈ nodes.zip naming.nodes) (hpath : node.filePath ≠ [])
      (hscheme : options.links = some scheme) :
      Refers (.link id (Link.uri scheme (Text.shown node.filePath) node.line))

/-- Lines that declare what a naming lists, each under an identifier of its own, and
refer to nothing else. -/
structure IsUnambiguous (lines : List DiagramLine) : Prop where
  /-- Every node of the table has an identifier. -/
  length_nodes : naming.nodes.length = nodes.length
  /-- There is one declaration for each node, group and token, and no other. -/
  declared : (lines.filterMap DiagramLine.declared?).Perm (naming.declarations options nodes)
  /-- No identifier is declared twice. -/
  distinct : ((lines.filterMap DiagramLine.declared?).map Declaration.id).Nodup
  noWord : ∀ d ∈ lines.filterMap DiagramLine.declared?, Ident.isReserved d.id = false
  noDigit : ∀ d ∈ lines.filterMap DiagramLine.declared?, d.id.head?.any Char.isDigit = false
  /-- No two groups are of the same path. -/
  distinct_groups : (naming.groups.map fun group => Path.components group.1).Nodup
  /-- The groups are those of the paths of nodes, when there are groups. -/
  mem_groups : ∀ place, place ∈ (naming.groups.map fun group => Path.components group.1) ↔
    options.groupByFile = true ∧
      ∃ node ∈ nodes, node.filePath ≠ [] ∧ Path.components node.filePath = place
  /-- No token is listed twice. -/
  distinct_tokens : (naming.artifacts.map Prod.fst).Nodup
  /-- The tokens are those that nodes write or read, when tokens are drawn. -/
  mem_tokens : ∀ token, token ∈ naming.artifacts.map Prod.fst ↔
    options.showArtifacts = true ∧ token ≠ [] ∧
      ∃ node ∈ nodes, ∃ written ∈ node.outputs ++ node.inputs, Text.trim written = token
  /-- A line that refers to identifiers refers to those of what it is about. -/
  refers : ∀ line ∈ lines, line.referred ≠ [] → naming.Refers options nodes line
  /-- Only nodes and tokens that are declared are referred to. -/
  declared_of_referred : ∀ line ∈ lines, ∀ id ∈ line.referred,
    ∃ label kind, Declaration.node id label kind ∈ lines.filterMap DiagramLine.declared?

end Naming

namespace Diagram

/-! ## The naming of a diagram -/

/-- The nodes with their identifiers. -/
def drawNodes (nodes : List Node) : List DrawnNode :=
  (nodes.zip (Ident.allocate [] (nodes.map Node.id))).map fun (node, id) => DrawnNode.mk node id

/-- The identifiers that a diagram uses. -/
def naming (options : DiagramOptions) (nodes : List Node) : Naming :=
  let drawn := drawNodes nodes
  let ids := Ident.allocate [] (nodes.map Node.id)
  let groups := groups options drawn
  let groupIds := groupIds ids groups
  let artifacts := if options.showArtifacts then artifacts drawn else []
  { nodes := ids
    groups := (groups.map NodeGroup.path).zip groupIds
    artifacts := artifacts.zip (artifactIds (groupIds ++ ids) artifacts) }

variable (options : DiagramOptions) (nodes : List Node)

/-- Every node has an identifier. -/
lemma length_nodes_naming : (naming options nodes).nodes.length = nodes.length := by
  rw [naming, Ident.length_allocate, List.length_map]

/-- The groups of a naming are those that are drawn. -/
lemma map_fst_groups_naming : (naming options nodes).groups.map Prod.fst =
    (groups options (drawNodes nodes)).map NodeGroup.path := by
  refine List.map_fst_zip ?_
  rw [groupIds, Ident.length_allocate, List.length_map, List.length_map]

/-- The groups get the identifiers of the naming. -/
lemma map_snd_groups_naming : (naming options nodes).groups.map Prod.snd =
    groupIds (naming options nodes).nodes (groups options (drawNodes nodes)) := by
  refine List.map_snd_zip ?_
  rw [groupIds, Ident.length_allocate, List.length_map, List.length_map]

/-- The tokens of a naming are those that are drawn. -/
lemma map_fst_artifacts_naming : (naming options nodes).artifacts.map Prod.fst =
    if options.showArtifacts then artifacts (drawNodes nodes) else [] := by
  refine List.map_fst_zip ?_
  rw [artifactIds, Ident.length_allocate, List.length_map]

/-- The tokens get the identifiers of the naming. -/
lemma map_snd_artifacts_naming : (naming options nodes).artifacts.map Prod.snd =
    artifactIds ((naming options nodes).groups.map Prod.snd ++ (naming options nodes).nodes)
      (if options.showArtifacts then artifacts (drawNodes nodes) else []) := by
  rw [map_snd_groups_naming]
  refine List.map_snd_zip ?_
  rw [artifactIds, Ident.length_allocate, List.length_map]

/-- The nodes that are drawn are those of the table with their identifiers. -/
lemma drawNodes_eq : drawNodes nodes =
    (nodes.zip (naming options nodes).nodes).map fun (node, id) => DrawnNode.mk node id := rfl

/-- The lines below the title, in terms of the naming. -/
lemma body_eq (palette : Palette) : body options palette nodes =
    nodeLines options (drawNodes nodes) (groups options (drawNodes nodes))
        ((naming options nodes).groups.map Prod.snd) ++
      (if options.showArtifacts then
          artifactLines (drawNodes nodes) (Graph.ofNodes nodes) (naming options nodes).artifacts
        else edgeLines options (naming options nodes).nodes (Graph.ofNodes nodes)) ++
      (if options.styled then
          styleLines options palette (drawNodes nodes)
            ((naming options nodes).artifacts.map Prod.snd)
        else []) ++
      linkLines options (drawNodes nodes) := by
  rw [map_snd_artifacts_naming, map_snd_groups_naming]
  rfl

/-- A node is drawn with its identifier. -/
lemma mem_drawNodes {d : DrawnNode} :
    d ∈ drawNodes nodes ↔ (d.node, d.id) ∈ nodes.zip (naming options nodes).nodes := by
  constructor
  · intro h
    obtain ⟨entry, hentry, rfl⟩ := List.mem_map.mp h
    exact hentry
  · exact fun h => List.mem_map.mpr ⟨_, h, rfl⟩

/-- The nodes that are drawn are those of the table. -/
lemma map_node_drawNodes : (drawNodes nodes).map DrawnNode.node = nodes := by
  have hlength : nodes.length ≤ (Ident.allocate [] (nodes.map Node.id)).length := by
    rw [Ident.length_allocate, List.length_map]
  rw [drawNodes, List.map_map]
  exact List.map_fst_zip hlength

/-- The nodes are drawn with the identifiers of the naming, in their order. -/
lemma map_id_drawNodes : (drawNodes nodes).map DrawnNode.id = (naming options nodes).nodes := by
  rw [drawNodes, List.map_map]
  exact List.map_snd_zip (length_nodes_naming options nodes).le

/-! ## Distinct identifiers -/

/-- No identifier stands for two things: the groups get theirs with those of the nodes
taken, and the tokens with those of both. -/
lemma nodup_ids_naming :
    ((naming options nodes).nodes ++ (naming options nodes).groups.map Prod.snd ++
      (naming options nodes).artifacts.map Prod.snd).Nodup := by
  obtain ⟨hnodes, -⟩ := Ident.nodup_allocate [] (nodes.map Node.id)
  obtain ⟨hgroups, hgroupsNew⟩ := Ident.nodup_allocate (naming options nodes).nodes
    ((groups options (drawNodes nodes)).map fun group => "file_" ++ group.name)
  rw [← groupIds, ← map_snd_groups_naming] at hgroups hgroupsNew
  obtain ⟨htokens, htokensNew⟩ := Ident.nodup_allocate
    ((naming options nodes).groups.map Prod.snd ++ (naming options nodes).nodes)
    ((if options.showArtifacts then artifacts (drawNodes nodes) else []).map
      fun token => "artifact_" ++ token)
  rw [← artifactIds, ← map_snd_artifacts_naming] at htokens htokensNew
  refine List.nodup_append.mpr ⟨List.nodup_append.mpr ⟨hnodes, hgroups, ?_⟩, htokens, ?_⟩
  · rintro id hid _ hother rfl
    exact hgroupsNew id hother hid
  · rintro id hid _ hother rfl
    exact htokensNew id hother (List.mem_append.mpr (List.mem_append.mp hid).symm)

/-- Every identifier that stands for something was handed out by the allocator. -/
lemma exists_mem_allocate_of_mem_ids {id : Text}
    (h : id ∈ (naming options nodes).nodes ++ (naming options nodes).groups.map Prod.snd ++
      (naming options nodes).artifacts.map Prod.snd) :
    ∃ taken texts, id ∈ Ident.allocate taken texts := by
  rw [map_snd_artifacts_naming, List.mem_append, List.mem_append] at h
  rcases h with (h | h) | h
  · exact ⟨_, _, h⟩
  · rw [map_snd_groups_naming] at h
    exact ⟨_, _, h⟩
  · exact ⟨_, _, h⟩

/-- The identifiers of nodes and tokens are identifiers. -/
lemma isIdentifier_of_mem_ids {options : DiagramOptions} {nodes : List Node} {id : Text}
    (h : id ∈ (naming options nodes).nodes ++ (naming options nodes).artifacts.map Prod.snd) :
    Text.isIdentifier id = true := by
  have hmem : id ∈ (naming options nodes).nodes ++ (naming options nodes).groups.map Prod.snd ++
      (naming options nodes).artifacts.map Prod.snd := by
    rcases List.mem_append.mp h with h | h
    · exact List.mem_append_left _ (List.mem_append_left _ h)
    · exact List.mem_append_right _ h
  obtain ⟨taken, texts, hid⟩ := exists_mem_allocate_of_mem_ids options nodes hmem
  exact Ident.isIdentifier_of_mem_allocate hid

/-! ## Groups and tokens -/

/-- The groups stand for the distinct places of the nodes that are in a group. -/
lemma map_place_groups_naming :
    ((naming options nodes).groups.map fun group => Path.components group.1) =
      (((drawNodes nodes).filter fun d => !isLoose options d).map NodeGroup.placeOf).eraseDups := by
  have hpaths : ((naming options nodes).groups.map fun group => Path.components group.1) =
      ((naming options nodes).groups.map Prod.fst).map Path.components := by
    rw [List.map_map]
    rfl
  rw [hpaths, map_fst_groups_naming, List.map_map, ← NodeGroup.map_place_ofNodes]
  rfl

/-- There is a group for every place of a node, if nodes are grouped. -/
lemma mem_map_place_groups_naming {place : List (Path.Component UInt8)} :
    place ∈ ((naming options nodes).groups.map fun group => Path.components group.1) ↔
      options.groupByFile = true ∧
        ∃ node ∈ nodes, node.filePath ≠ [] ∧ Path.components node.filePath = place := by
  have hloose : ∀ d : DrawnNode, (!isLoose options d) = true ↔
      options.groupByFile = true ∧ d.node.filePath ≠ [] := by
    intro d
    simp [isLoose]
  rw [map_place_groups_naming, List.mem_eraseDups, List.mem_map]
  constructor
  · rintro ⟨d, hd, rfl⟩
    obtain ⟨hd, hgrouped⟩ := List.mem_filter.mp hd
    obtain ⟨hoption, hpath⟩ := (hloose d).mp hgrouped
    refine ⟨hoption, d.node, ?_, hpath, rfl⟩
    rw [← map_node_drawNodes nodes]
    exact List.mem_map_of_mem hd
  · rintro ⟨hoption, node, hnode, hpath, rfl⟩
    rw [← map_node_drawNodes nodes] at hnode
    obtain ⟨d, hd, rfl⟩ := List.mem_map.mp hnode
    exact ⟨d, List.mem_filter.mpr ⟨hd, (hloose d).mpr ⟨hoption, hpath⟩⟩, rfl⟩

/-- No token is drawn twice. -/
lemma nodup_map_fst_artifacts_naming :
    ((naming options nodes).artifacts.map Prod.fst).Nodup := by
  rw [map_fst_artifacts_naming]
  split
  · exact nodup_eraseDups _
  · exact List.nodup_nil

/-- The tokens that are drawn are those that nodes write or read. -/
lemma mem_map_fst_artifacts_naming {token : Text} :
    token ∈ (naming options nodes).artifacts.map Prod.fst ↔
      options.showArtifacts = true ∧ token ≠ [] ∧
        ∃ node ∈ nodes, ∃ written ∈ node.outputs ++ node.inputs, Text.trim written = token := by
  rw [map_fst_artifacts_naming]
  split
  next hshown =>
    rw [artifacts, List.mem_eraseDups, List.mem_flatMap]
    constructor
    · rintro ⟨d, hd, htoken⟩
      obtain ⟨hne, hwritten⟩ := Node.mem_tokens.mp htoken
      refine ⟨hshown, hne, d.node, ?_, hwritten⟩
      rw [← map_node_drawNodes nodes]
      exact List.mem_map_of_mem hd
    · rintro ⟨-, hne, node, hnode, hwritten⟩
      rw [← map_node_drawNodes nodes] at hnode
      obtain ⟨d, hd, rfl⟩ := List.mem_map.mp hnode
      exact ⟨d, hd, Node.mem_tokens.mpr ⟨hne, hwritten⟩⟩
  next hhidden =>
    exact ⟨fun h => absurd h List.not_mem_nil, fun h => absurd h.1 hhidden⟩

/-! ## Declarations -/

/-- A node is declared with its identifier, its text and its kind. -/
def nodeDeclaration (options : DiagramOptions) (drawn : DrawnNode) : Declaration :=
  .node drawn.id (Label.escape (options.nodeText drawn.node)) (options.drawnKind drawn.node)

variable {options nodes}

/-- The lines of nodes declare these, inside groups or not. -/
lemma filterMap_declared?_map_nodeLine (grouped : Bool) (drawn : List DrawnNode) :
    (drawn.map (options.nodeLine grouped)).filterMap DiagramLine.declared? =
      drawn.map (nodeDeclaration options) := by
  rw [List.filterMap_map, ← List.filterMap_eq_map]
  rfl

/-- The lines of a group declare it and its nodes. -/
lemma filterMap_declared?_lines (group : NodeGroup) (id : Text) :
    (group.lines options id).filterMap DiagramLine.declared? =
      .group id (Label.escape group.name) :: group.members.map (nodeDeclaration options) := by
  rw [NodeGroup.lines, List.filterMap_append, List.filterMap_append,
    filterMap_declared?_map_nodeLine]
  exact List.append_nil _

/-- The lines that define nodes and groups declare each node and each group once. -/
lemma filterMap_declared?_nodeLines (drawn : List DrawnNode) {ids : List Text}
    (hlength : ids.length = (groups options drawn).length) :
    ((nodeLines options drawn (groups options drawn) ids).filterMap
        DiagramLine.declared?).Perm
      (drawn.map (nodeDeclaration options) ++
        ((groups options drawn).zip ids).map fun (group, id) =>
          .group id (Label.escape group.name)) := by
  set pairs := (groups options drawn).zip ids with hpairs
  set loose := drawn.filter (isLoose options) with hloose
  set inGroups := drawn.filter fun d => !isLoose options d with hinGroups
  have hmembers : (pairs.flatMap fun pair => pair.1.members).Perm inGroups := by
    have hfst : pairs.map Prod.fst = groups options drawn := List.map_fst_zip hlength.ge
    have hflat : (pairs.flatMap fun pair => pair.1.members) =
        (pairs.map Prod.fst).flatMap NodeGroup.members := (List.flatMap_map _ _ _).symm
    rw [hflat, hfst]
    exact NodeGroup.flatMap_members_ofNodes inGroups
  have hgroups : ((pairs.flatMap fun (group, id) => group.lines options id).filterMap
      DiagramLine.declared?).Perm
        ((pairs.map fun (group, id) => .group id (Label.escape group.name)) ++
          inGroups.map (nodeDeclaration options)) := by
    simp only [List.filterMap_flatMap, filterMap_declared?_lines]
    refine (List.map_append_flatMap_perm pairs _ _).symm.trans (.append_left _ ?_)
    rw [← List.map_flatMap]
    exact hmembers.map _
  rw [nodeLines, List.filterMap_append, filterMap_declared?_map_nodeLine]
  have hall : (loose ++ inGroups).Perm drawn := List.filter_append_perm (isLoose options) drawn
  calc loose.map (nodeDeclaration options) ++
        (pairs.flatMap fun (group, id) => group.lines options id).filterMap DiagramLine.declared?
    _ ~ loose.map (nodeDeclaration options) ++
        ((pairs.map fun (group, id) => .group id (Label.escape group.name)) ++
          inGroups.map (nodeDeclaration options)) := hgroups.append_left _
    _ ~ loose.map (nodeDeclaration options) ++ (inGroups.map (nodeDeclaration options) ++
          pairs.map fun (group, id) => .group id (Label.escape group.name)) :=
      List.perm_append_comm.append_left _
    _ ~ drawn.map (nodeDeclaration options) ++
          pairs.map fun (group, id) => .group id (Label.escape group.name) := by
      rw [← List.append_assoc, ← List.map_append]
      exact (hall.map _).append_right _

/-- Of the lines about tokens the definitions declare and the connections do not. -/
lemma filterMap_declared?_artifactLines (drawn : List DrawnNode) (graph : Graph)
    (ids : List (Text × Text)) :
    (artifactLines drawn graph ids).filterMap DiagramLine.declared? =
      ids.map fun (token, id) => .node id (Label.escape token) .artifact := by
  have harrows : ((artifactArrows drawn graph ids).map fun a =>
      DiagramLine.edge a.source a.kind none a.target).filterMap DiagramLine.declared? = [] := by
    rw [List.filterMap_eq_nil_iff]
    intro line hline
    obtain ⟨a, -, rfl⟩ := List.mem_map.mp hline
    rfl
  rw [artifactLines, List.filterMap_append, harrows, List.append_nil, List.filterMap_map,
    ← List.filterMap_eq_map]
  rfl

/-- Connections of nodes declare nothing. -/
lemma filterMap_declared?_edgeLines (ids : List Text) (graph : Graph) :
    (edgeLines options ids graph).filterMap DiagramLine.declared? = [] := by
  rw [List.filterMap_eq_nil_iff]
  intro line hline
  obtain ⟨edge, -, rfl⟩ := List.mem_map.mp hline
  rfl

/-- Styles declare nothing. -/
lemma filterMap_declared?_styleLines (palette : Palette) (drawn : List DrawnNode)
    (ids : List Text) :
    (styleLines options palette drawn ids).filterMap DiagramLine.declared? = [] := by
  rw [List.filterMap_eq_nil_iff]
  intro line hline
  rcases List.mem_append.mp hline with hline | hline
  · obtain ⟨kind, -, rfl⟩ := List.mem_map.mp hline
    rfl
  · obtain ⟨kind, -, rfl⟩ := List.mem_map.mp hline
    rfl

/-- Links declare nothing. -/
lemma filterMap_declared?_linkLines (drawn : List DrawnNode) :
    (linkLines options drawn).filterMap DiagramLine.declared? = [] := by
  rw [List.filterMap_eq_nil_iff]
  intro line hline
  unfold linkLines at hline
  split at hline
  · exact absurd hline List.not_mem_nil
  · obtain ⟨d, -, rfl⟩ := List.mem_map.mp hline
    rfl

/-- Below the title the nodes, groups and tokens of the naming are declared, each once. -/
lemma filterMap_declared?_body (palette : Palette) :
    ((body options palette nodes).filterMap DiagramLine.declared?).Perm
      ((naming options nodes).declarations options nodes) := by
  have hconnections : (if options.showArtifacts then
        artifactLines (drawNodes nodes) (Graph.ofNodes nodes) (naming options nodes).artifacts
      else edgeLines options (naming options nodes).nodes (Graph.ofNodes nodes)).filterMap
        DiagramLine.declared? =
      (naming options nodes).artifacts.map fun (token, id) =>
        .node id (Label.escape token) .artifact := by
    split
    next => exact filterMap_declared?_artifactLines _ _ _
    next hhidden =>
      have hnone := map_fst_artifacts_naming options nodes
      rw [if_neg hhidden, List.map_eq_nil_iff] at hnone
      rw [filterMap_declared?_edgeLines, hnone, List.map_nil]
  have hstyles : (if options.styled then styleLines options palette (drawNodes nodes)
        ((naming options nodes).artifacts.map Prod.snd) else []).filterMap
      DiagramLine.declared? = [] := by
    split
    · exact filterMap_declared?_styleLines _ _ _
    · rfl
  have hnodes : (drawNodes nodes).map (nodeDeclaration options) =
      (nodes.zip (naming options nodes).nodes).map fun (node, id) =>
        .node id (Label.escape (options.nodeText node)) (options.drawnKind node) := by
    rw [drawNodes_eq options, List.map_map]
    rfl
  have hgroups : (((groups options (drawNodes nodes)).zip
        ((naming options nodes).groups.map Prod.snd)).map fun (group, id) =>
          Declaration.group id (Label.escape group.name)) =
      (naming options nodes).groups.map fun (path, id) =>
        .group id (Label.escape (Text.shown ((Path.fileName? path).getD path))) := by
    rw [map_snd_groups_naming, naming, List.zip_map_left, List.map_map]
    rfl
  have hlength : ((naming options nodes).groups.map Prod.snd).length =
      (groups options (drawNodes nodes)).length := by
    rw [map_snd_groups_naming, groupIds, Ident.length_allocate, List.length_map]
  rw [body_eq, List.filterMap_append, List.filterMap_append, List.filterMap_append, hconnections,
    hstyles, filterMap_declared?_linkLines, List.append_nil, List.append_nil, Naming.declarations,
    ← hnodes, ← hgroups]
  exact (filterMap_declared?_nodeLines (drawNodes nodes) hlength).append_right _

/-- The lines of a diagram declare what the lines below its title declare. -/
lemma filterMap_declared?_lines_ofNodes (options : DiagramOptions) (nodes : List Node) :
    (ofNodes options nodes).lines.filterMap DiagramLine.declared? =
      (bodyLines options nodes).filterMap DiagramLine.declared? := by
  have htitles : (titleLines options).filterMap DiagramLine.declared? = [] := by
    rw [List.filterMap_eq_nil_iff]
    intro line hline
    obtain ⟨title, -, rfl⟩ := List.mem_map.mp hline
    rfl
  rw [lines_ofNodes, List.filterMap_cons_none rfl, List.filterMap_append, htitles, List.nil_append]

/-- The identifiers that a naming declares are those that stand for something. -/
lemma map_id_declarations :
    ((naming options nodes).declarations options nodes).map Declaration.id =
      (naming options nodes).nodes ++ (naming options nodes).groups.map Prod.snd ++
        (naming options nodes).artifacts.map Prod.snd := by
  have hnodes : (nodes.zip (naming options nodes).nodes).map Prod.snd =
      (naming options nodes).nodes := List.map_snd_zip (length_nodes_naming options nodes).le
  rw [Naming.declarations, List.map_append, List.map_append, List.map_map, List.map_map,
    List.map_map]
  exact congrArg (fun ids => ids ++ (naming options nodes).groups.map Prod.snd ++
    (naming options nodes).artifacts.map Prod.snd) hnodes

/-! ## References -/

/-- The identifier at the end of a connection of the graph. -/
lemma getElem?_nodes_naming {i : Nat} (hi : i < nodes.length) :
    (naming options nodes).nodes[i]? = some ((naming options nodes).nodes.getD i []) := by
  have hlength : i < (naming options nodes).nodes.length := by
    rw [length_nodes_naming]
    exact hi
  rw [List.getD_eq_getElem?_getD, List.getElem?_eq_getElem hlength, Option.getD_some]

/-- A connection between nodes is one of the graph. -/
lemma refers_of_mem_edgeLines (hplain : options.showArtifacts = false) {line : DiagramLine}
    (h : line ∈ edgeLines options (naming options nodes).nodes (Graph.ofNodes nodes)) :
    (naming options nodes).Refers options nodes line := by
  obtain ⟨edge, hedge, rfl⟩ := List.mem_map.mp h
  obtain ⟨hsource, htarget⟩ := Graph.lt_of_mem_edges hedge
  exact .edge hplain hedge (getElem?_nodes_naming hsource) (getElem?_nodes_naming htarget)

/-- An identifier that is found for a token is the one of this token. -/
lemma mem_artifacts_of_find? {artifacts : List (Text × Text)} {token id : Text}
    (h : (artifacts.find? fun entry => entry.1 == token).map Prod.snd = some id) :
    (token, id) ∈ artifacts := by
  obtain ⟨entry, hentry, rfl⟩ := Option.map_eq_some_iff.mp h
  have htoken : entry.1 = token := by simpa using List.find?_some hentry
  rw [← htoken]
  exact List.mem_of_find?_eq_some hentry

/-- An arrow joins a node with a token of it, or two nodes along a dependency. -/
lemma joins_of_mem_artifactArrows {a : Arrow}
    (h : a ∈ artifactArrows (drawNodes nodes) (Graph.ofNodes nodes)
      (naming options nodes).artifacts) : (naming options nodes).Joins nodes a := by
  unfold artifactArrows at h
  rcases List.mem_append.mp (mem_of_mem_eraseDupsBy h) with h | h
  · rcases List.mem_append.mp h with h | h
    · obtain ⟨d, hd, h⟩ := List.mem_flatMap.mp h
      obtain ⟨id, hid, rfl⟩ := List.mem_map.mp h
      obtain ⟨token, htoken, hid⟩ := List.mem_filterMap.mp hid
      exact .written ((mem_drawNodes options nodes).mp hd) htoken (mem_artifacts_of_find? hid)
    · obtain ⟨d, hd, h⟩ := List.mem_flatMap.mp h
      obtain ⟨id, hid, rfl⟩ := List.mem_map.mp h
      obtain ⟨token, htoken, hid⟩ := List.mem_filterMap.mp hid
      exact .read ((mem_drawNodes options nodes).mp hd) htoken (mem_artifacts_of_find? hid)
  · obtain ⟨edge, hedge, rfl⟩ := List.mem_map.mp h
    obtain ⟨hedge, hkind⟩ := List.mem_filter.mp hedge
    obtain ⟨hsource, htarget⟩ := Graph.lt_of_mem_edges hedge
    rw [map_id_drawNodes options]
    exact .sourced hedge (beq_iff_eq.mp hkind) (getElem?_nodes_naming hsource)
      (getElem?_nodes_naming htarget)

/-- A line about tokens that refers to identifiers is an arrow. -/
lemma refers_of_mem_artifactLines (hshown : options.showArtifacts = true) {line : DiagramLine}
    (h : line ∈ artifactLines (drawNodes nodes) (Graph.ofNodes nodes)
      (naming options nodes).artifacts) (hreferred : line.referred ≠ []) :
    (naming options nodes).Refers options nodes line := by
  rcases List.mem_append.mp h with h | h
  · obtain ⟨entry, -, rfl⟩ := List.mem_map.mp h
    exact absurd rfl hreferred
  · obtain ⟨a, ha, rfl⟩ := List.mem_map.mp h
    exact .arrow hshown (joins_of_mem_artifactArrows ha)

/-- The members of a kind in a diagram are those in its naming. -/
lemma membersOf_eq (kind : NodeKind) :
    membersOf options (drawNodes nodes) ((naming options nodes).artifacts.map Prod.snd) kind =
      (naming options nodes).members options nodes kind := by
  rw [membersOf, Naming.members, drawNodes_eq options, List.filter_map, List.map_map]
  rfl

/-- A line about styles that refers to identifiers lists the members of a kind. -/
lemma refers_of_mem_styleLines {palette : Palette} {line : DiagramLine}
    (h : line ∈ styleLines options palette (drawNodes nodes)
      ((naming options nodes).artifacts.map Prod.snd)) (hreferred : line.referred ≠ []) :
    (naming options nodes).Refers options nodes line := by
  rcases List.mem_append.mp h with h | h
  · obtain ⟨kind, -, rfl⟩ := List.mem_map.mp h
    exact absurd rfl hreferred
  · obtain ⟨kind, -, rfl⟩ := List.mem_map.mp h
    rw [membersOf_eq]
    exact .members kind

/-- A link is that of a node with a path. -/
lemma refers_of_mem_linkLines {line : DiagramLine}
    (h : line ∈ linkLines options (drawNodes nodes)) :
    (naming options nodes).Refers options nodes line := by
  unfold linkLines at h
  split at h
  · exact absurd h List.not_mem_nil
  next scheme hscheme =>
    obtain ⟨d, hd, rfl⟩ := List.mem_map.mp h
    obtain ⟨hd, hpath⟩ := List.mem_filter.mp hd
    exact .link ((mem_drawNodes options nodes).mp hd) (by simpa using hpath) hscheme

/-- Nodes and groups are declared without referring to anything. -/
lemma referred_eq_nil_of_mem_nodeLines {drawn : List DrawnNode} {groups : List NodeGroup}
    {ids : List Text} {line : DiagramLine} (h : line ∈ nodeLines options drawn groups ids) :
    line.referred = [] := by
  rcases List.mem_append.mp h with h | h
  · obtain ⟨d, -, rfl⟩ := List.mem_map.mp h
    rfl
  · obtain ⟨⟨group, id⟩, -, h⟩ := List.mem_flatMap.mp h
    simp only [NodeGroup.lines, List.mem_append, List.mem_singleton, List.mem_map] at h
    rcases h with (rfl | ⟨d, -, rfl⟩) | rfl <;> rfl

/-- A line below the title that refers to identifiers refers to those of what it is
about. -/
lemma refers_of_mem_body {palette : Palette} {line : DiagramLine}
    (h : line ∈ body options palette nodes) (hreferred : line.referred ≠ []) :
    (naming options nodes).Refers options nodes line := by
  rw [body_eq] at h
  rcases List.mem_append.mp h with h | h
  · rcases List.mem_append.mp h with h | h
    · rcases List.mem_append.mp h with h | h
      · exact absurd (referred_eq_nil_of_mem_nodeLines h) hreferred
      · split at h
        next hshown => exact refers_of_mem_artifactLines hshown h hreferred
        next hhidden => exact refers_of_mem_edgeLines (Bool.eq_false_iff.mpr hhidden) h
    · split at h
      · exact refers_of_mem_styleLines h hreferred
      · exact absurd h List.not_mem_nil
  · exact refers_of_mem_linkLines h

end Diagram

namespace Naming

variable {naming : Naming} {options : DiagramOptions} {nodes : List Node}

/-- The identifier of a node is declared. -/
lemma exists_mem_declarations_of_mem_nodes (hlength : naming.nodes.length = nodes.length)
    {id : Text} (h : id ∈ naming.nodes) :
    ∃ label kind, Declaration.node id label kind ∈ naming.declarations options nodes := by
  have hsnd : (nodes.zip naming.nodes).map Prod.snd = naming.nodes := List.map_snd_zip hlength.le
  rw [← hsnd] at h
  obtain ⟨⟨node, id⟩, hentry, rfl⟩ := List.mem_map.mp h
  exact ⟨_, _, List.mem_append_left _ (List.mem_append_left _ (List.mem_map_of_mem hentry))⟩

/-- The identifier of a token is declared. -/
lemma exists_mem_declarations_of_mem_artifacts {id : Text}
    (h : id ∈ naming.artifacts.map Prod.snd) :
    ∃ label kind, Declaration.node id label kind ∈ naming.declarations options nodes := by
  obtain ⟨⟨token, id⟩, hentry, rfl⟩ := List.mem_map.mp h
  exact ⟨_, _, List.mem_append_right _ (List.mem_map_of_mem hentry)⟩

/-- Both ends of an arrow stand for nodes or tokens. -/
lemma Joins.mem_ends {a : Diagram.Arrow} (h : naming.Joins nodes a) :
    a.source ∈ naming.nodes ++ naming.artifacts.map Prod.snd ∧
      a.target ∈ naming.nodes ++ naming.artifacts.map Prod.snd := by
  cases h with
  | written hnode htoken hartifact =>
    exact ⟨List.mem_append_left _ (List.of_mem_zip hnode).2,
      List.mem_append_right _ (List.mem_map_of_mem (f := Prod.snd) hartifact)⟩
  | read hnode htoken hartifact =>
    exact ⟨List.mem_append_right _ (List.mem_map_of_mem (f := Prod.snd) hartifact),
      List.mem_append_left _ (List.of_mem_zip hnode).2⟩
  | sourced hedge hkind hsource htarget =>
    exact ⟨List.mem_append_left _ (List.mem_of_getElem? hsource),
      List.mem_append_left _ (List.mem_of_getElem? htarget)⟩

/-- A line that refers to what it is about refers to nodes and tokens. -/
lemma Refers.mem_ids {line : DiagramLine} (h : naming.Refers options nodes line) {id : Text}
    (hid : id ∈ line.referred) : id ∈ naming.nodes ++ naming.artifacts.map Prod.snd := by
  cases h with
  | edge hplain hedge hsource htarget =>
    rcases List.mem_pair.mp hid with rfl | rfl
    · exact List.mem_append_left _ (List.mem_of_getElem? hsource)
    · exact List.mem_append_left _ (List.mem_of_getElem? htarget)
  | arrow hshown hjoins =>
    rcases List.mem_pair.mp hid with rfl | rfl
    · exact hjoins.mem_ends.1
    · exact hjoins.mem_ends.2
  | members kind =>
    rcases List.mem_append.mp hid with hid | hid
    · obtain ⟨⟨node, id⟩, hentry, rfl⟩ := List.mem_map.mp hid
      exact List.mem_append_left _ (List.of_mem_zip (List.mem_filter.mp hentry).1).2
    · split at hid
      · exact List.mem_append_right _ hid
      · exact absurd hid List.not_mem_nil
  | link hnode hpath hscheme =>
    rw [List.mem_singleton.mp hid]
    exact List.mem_append_left _ (List.of_mem_zip hnode).2

/-- A line that refers to what it is about refers to nodes and tokens that a diagram has
to declare. -/
lemma Refers.exists_mem_declarations {line : DiagramLine}
    (h : naming.Refers options nodes line) (hlength : naming.nodes.length = nodes.length)
    {id : Text} (hid : id ∈ line.referred) :
    ∃ label kind, Declaration.node id label kind ∈ naming.declarations options nodes := by
  rcases List.mem_append.mp (h.mem_ids hid) with hid | hid
  · exact exists_mem_declarations_of_mem_nodes hlength hid
  · exact exists_mem_declarations_of_mem_artifacts hid

end Naming

namespace Diagram

/-- The identifiers in a diagram are unambiguous: each node, group and token that has to
be drawn is declared once, under an identifier of its own that is no word of the
diagram language and starts with no digit, and what connections, styles and links
refer to are the identifiers of the nodes and tokens they are about. -/
theorem isUnambiguous_naming (options : DiagramOptions) {nodes : List Node} (hne : nodes ≠ []) :
    (naming options nodes).IsUnambiguous options nodes (ofNodes options nodes).lines := by
  have hdeclared : ((ofNodes options nodes).lines.filterMap DiagramLine.declared?).Perm
      ((naming options nodes).declarations options nodes) := by
    rw [filterMap_declared?_lines_ofNodes, bodyLines, List.isEmpty_eq_false_iff.mpr hne]
    exact filterMap_declared?_body _
  have hhanded : ∀ d ∈ (ofNodes options nodes).lines.filterMap DiagramLine.declared?,
      ∃ taken texts, d.id ∈ Ident.allocate taken texts := by
    intro d hd
    refine exists_mem_allocate_of_mem_ids options nodes ?_
    rw [← map_id_declarations]
    exact List.mem_map_of_mem (hdeclared.subset hd)
  have hrefers : ∀ line ∈ (ofNodes options nodes).lines, line.referred ≠ [] →
      (naming options nodes).Refers options nodes line := by
    intro line hline hreferred
    rw [lines_ofNodes, bodyLines, List.isEmpty_eq_false_iff.mpr hne] at hline
    rcases List.mem_cons.mp hline with rfl | hline
    · exact absurd rfl hreferred
    · rcases List.mem_append.mp hline with hline | hline
      · obtain ⟨title, -, rfl⟩ := List.mem_map.mp hline
        exact absurd rfl hreferred
      · exact refers_of_mem_body hline hreferred
  refine
    { length_nodes := length_nodes_naming options nodes
      declared := hdeclared
      distinct := ?_
      noWord := fun d hd => ?_
      noDigit := fun d hd => ?_
      distinct_groups := ?_
      mem_groups := fun place => mem_map_place_groups_naming options nodes
      distinct_tokens := nodup_map_fst_artifacts_naming options nodes
      mem_tokens := fun token => mem_map_fst_artifacts_naming options nodes
      refers := hrefers
      declared_of_referred := fun line hline id hid => ?_ }
  · rw [(hdeclared.map Declaration.id).nodup_iff, map_id_declarations]
    exact nodup_ids_naming options nodes
  · obtain ⟨taken, texts, hid⟩ := hhanded d hd
    exact Ident.isReserved_of_mem_allocate hid
  · obtain ⟨taken, texts, hid⟩ := hhanded d hd
    exact Ident.isDigit_head_eq_false (Ident.isIdentifier_of_mem_allocate hid)
  · rw [map_place_groups_naming]
    exact nodup_eraseDups _
  · have hreferred : line.referred ≠ [] := List.ne_nil_of_mem hid
    obtain ⟨label, kind, hmem⟩ := (hrefers line hline hreferred).exists_mem_declarations
      (length_nodes_naming options nodes) hid
    exact ⟨label, kind, hdeclared.symm.subset hmem⟩

/-- Nodes whose identifiers would coincide, two of them in one script. -/
def collidingNodes : List Node :=
  [{ id := "end", filePath := "r/load.R", outputs := [" a.csv "] },
    { id := "a b", filePath := "r//load.R", inputs := ["a.csv"], outputs := ["a_csv", " "] },
    { id := "a_b", filePath := "plot.R", inputs := ["a_csv"] },
    { id := "a_b_2", filePath := [] }]

/-- The identifiers of these nodes, of their scripts and of what they write. -/
theorem isUnambiguous_naming_collidingNodes :
    collidingNodes ≠ [] ∧
      naming { showArtifacts := true, groupByFile := true } collidingNodes =
        { nodes := ["n_end", "a_b", "a_b_2", "a_b_2_2"]
          groups := [("r/load.R", "file_load_R"), ("plot.R", "file_plot_R")]
          artifacts := [("a.csv", "artifact_a_csv"), ("a_csv", "artifact_a_csv_2")] } ∧
      (naming { showArtifacts := true, groupByFile := true } collidingNodes).IsUnambiguous
        { showArtifacts := true, groupByFile := true } collidingNodes
        (ofNodes { showArtifacts := true, groupByFile := true } collidingNodes).lines :=
  ⟨by decide, by decide, isUnambiguous_naming _ (by decide)⟩

end Diagram

end ScriptFlow
