import ScriptFlow.Proofs.Diagram.Naming
import ScriptFlow.Proofs.Graph.Reordered

/-!
# Nodes where the workflow starts and ends

With boundaries off, a diagram is that of the same nodes with every start and every end made
a process (`ofNodes_withoutBoundary`).

The kind of a node counts in a diagram only as the kind that the node is drawn as: changing
kinds leaves identifiers, groups, tokens and connections as they are, and so it leaves the
whole diagram, if each node is drawn as the same kind as before (`ofNodes_mapKind`).
-/

namespace ScriptFlow

/-- A process in place of a start or an end. -/
def NodeKind.withoutBoundary : NodeKind → NodeKind
  | start => process
  | stop => process
  | kind => kind

/-- A node with its kind changed. -/
def Node.mapKind (f : NodeKind → NodeKind) (node : Node) : Node :=
  { node with kind := f node.kind }

/-- The identifiers of nodes do not depend on their kinds. -/
lemma Node.map_id_mapKind (f : NodeKind → NodeKind) (nodes : List Node) :
    (nodes.map (mapKind f)).map id = nodes.map id :=
  List.map_map

/-- The node as a process if it is a start or an end. -/
def Node.withoutBoundary (node : Node) : Node :=
  node.mapKind NodeKind.withoutBoundary

/-- The options with boundaries on or off. -/
def DiagramOptions.bounding (options : DiagramOptions) (boundaries : Bool) : DiagramOptions :=
  { options with boundaries }

/-- A node is drawn as what it is, apart from boundaries that are off. -/
lemma DiagramOptions.drawnKind_eq (options : DiagramOptions) (node : Node) :
    options.drawnKind node =
      if options.boundaries then node.kind else node.kind.withoutBoundary := by
  rw [drawnKind]
  cases options.boundaries <;> cases node.kind <;> rfl

/-- The graph does not change with the kinds of the nodes. -/
lemma Graph.ofNodes_mapKind (f : NodeKind → NodeKind) (nodes : List Node) :
    ofNodes (nodes.map (Node.mapKind f)) = ofNodes nodes := by
  have hedges := edgesAmong_map (Prod.map (Node.mapKind f) id) id
    (fun _ => ⟨rfl, rfl, rfl, rfl, rfl⟩) (fun _ => rfl) Function.injective_id nodes.zipIdx
  have hsame : Edge.moved id = id := rfl
  rw [← List.zipIdx_map, hsame, List.map_id] at hedges
  exact congrArg₂ Graph.mk (List.length_map _) hedges

/-- A drawn node with its kind changed. -/
def DrawnNode.mapKind (f : NodeKind → NodeKind) (drawn : DrawnNode) : DrawnNode :=
  { drawn with node := drawn.node.mapKind f }

namespace NodeGroup

variable (f : NodeKind → NodeKind)

/-- A group with the kinds of its nodes changed. -/
def mapKind (group : NodeGroup) : NodeGroup :=
  { group with members := group.members.map (DrawnNode.mapKind f) }

/-- The kind of a node does not decide into which group it is put. -/
lemma insert_mapKind (drawn : DrawnNode) (groups : List NodeGroup) :
    insert (drawn.mapKind f) (groups.map (mapKind f)) = (insert drawn groups).map (mapKind f) := by
  induction groups with
  | nil => rfl
  | cons group rest ih =>
    have hplace : Path.samePlace (group.mapKind f).path (drawn.mapKind f).node.filePath =
        Path.samePlace group.path drawn.node.filePath := rfl
    rw [List.map_cons, insert, insert, hplace, ih]
    split
    · simp [mapKind]
    · rfl

/-- The groups of nodes do not depend on their kinds. -/
lemma ofNodes_map_mapKind (drawn : List DrawnNode) :
    ofNodes (drawn.map (DrawnNode.mapKind f)) = (ofNodes drawn).map (mapKind f) := by
  have hfold : ∀ groups : List NodeGroup,
      (drawn.map (DrawnNode.mapKind f)).foldl (fun groups d => insert d groups)
          (groups.map (mapKind f)) =
        (drawn.foldl (fun groups d => insert d groups) groups).map (mapKind f) := by
    induction drawn with
    | nil => exact fun groups => rfl
    | cons first rest ih =>
      intro groups
      rw [List.map_cons, List.foldl_cons, List.foldl_cons, insert_mapKind, ih]
  exact hfold []

end NodeGroup

namespace Diagram

variable (options : DiagramOptions) (before after : Bool) (f : NodeKind → NodeKind)
  (nodes : List Node) (drawn : List DrawnNode)

/-! ## What does not depend on kinds -/

/-- The nodes keep their identifiers. -/
lemma drawNodes_mapKind :
    drawNodes (nodes.map (Node.mapKind f)) = (drawNodes nodes).map (DrawnNode.mapKind f) := by
  rw [drawNodes, drawNodes, Node.map_id_mapKind, List.zip_map_left, List.map_map, List.map_map]
  rfl

/-- The groups are those of the same paths. -/
lemma groups_mapKind : groups (options.bounding after) (drawn.map (DrawnNode.mapKind f)) =
    (groups (options.bounding before) drawn).map (NodeGroup.mapKind f) := by
  rw [groups, List.filter_map, NodeGroup.ofNodes_map_mapKind]
  rfl

/-- The tokens are the same. -/
lemma artifacts_mapKind : artifacts (drawn.map (DrawnNode.mapKind f)) = artifacts drawn := by
  rw [artifacts, List.flatMap_map]
  rfl

/-- Everything has the same identifier. -/
lemma naming_mapKind : naming (options.bounding after) (nodes.map (Node.mapKind f)) =
    naming (options.bounding before) nodes := by
  unfold naming groupIds
  dsimp only
  rw [Node.map_id_mapKind, drawNodes_mapKind, groups_mapKind options before after,
    artifacts_mapKind, List.map_map, List.map_map]
  rfl

/-- The connections with tokens are the same. -/
lemma artifactArrows_mapKind (graph : Graph) (ids : List (Text × Text)) :
    artifactArrows (drawn.map (DrawnNode.mapKind f)) graph ids =
      artifactArrows drawn graph ids := by
  unfold artifactArrows
  dsimp only
  rw [List.flatMap_map, List.flatMap_map, List.map_map]
  rfl

/-- The links are the same. -/
lemma linkLines_mapKind :
    linkLines (options.bounding after) (drawn.map (DrawnNode.mapKind f)) =
      linkLines (options.bounding before) drawn := by
  have hlinks : (options.bounding after).links = (options.bounding before).links := rfl
  unfold linkLines
  rw [hlinks]
  split
  · rfl
  · rw [List.filter_map, List.map_map]
    rfl

/-! ## What depends on the kinds that nodes are drawn as -/

section SameKinds

variable {options before after f} (hkind : ∀ node : Node,
  (options.bounding after).drawnKind (node.mapKind f) = (options.bounding before).drawnKind node)

include hkind

/-- The definition of a node is the same. -/
lemma nodeLine_mapKind (grouped : Bool) (d : DrawnNode) :
    (options.bounding after).nodeLine grouped (d.mapKind f) =
      (options.bounding before).nodeLine grouped d :=
  congrArg (DiagramLine.node grouped d.id _) (hkind d.node)

/-- The definitions of nodes and groups are the same. -/
lemma nodeLines_mapKind (ids : List Text) :
    nodeLines (options.bounding after) (drawn.map (DrawnNode.mapKind f))
        (groups (options.bounding after) (drawn.map (DrawnNode.mapKind f))) ids =
      nodeLines (options.bounding before) drawn (groups (options.bounding before) drawn) ids := by
  have hlines : ∀ (grouped : Bool) (part : List DrawnNode),
      (part.map (DrawnNode.mapKind f)).map ((options.bounding after).nodeLine grouped) =
        part.map ((options.bounding before).nodeLine grouped) := by
    intro grouped part
    rw [List.map_map]
    exact List.map_congr_left fun d _ => nodeLine_mapKind hkind grouped d
  have hgroup : ∀ (group : NodeGroup) (id : Text),
      (group.mapKind f).lines (options.bounding after) id =
        group.lines (options.bounding before) id := by
    intro group id
    rw [NodeGroup.lines, NodeGroup.mapKind, hlines]
    rfl
  rw [nodeLines, List.filter_map, hlines, groups_mapKind options before after,
    List.zip_map_left, List.flatMap_map]
  simp only [Prod.map, hgroup]
  rfl

/-- The members of a kind are the same. -/
lemma membersOf_mapKind (ids : List Text) (kind : NodeKind) :
    membersOf (options.bounding after) (drawn.map (DrawnNode.mapKind f)) ids kind =
      membersOf (options.bounding before) drawn ids kind := by
  have hfilter : ((fun d : DrawnNode => (options.bounding after).drawnKind d.node == kind) ∘
      DrawnNode.mapKind f) =
        fun d => (options.bounding before).drawnKind d.node == kind := by
    funext d
    exact congrArg (· == kind) (hkind d.node)
  rw [membersOf, List.filter_map, hfilter, List.map_map]
  rfl

/-- The styles are the same. -/
lemma styleLines_mapKind (palette : Palette) (ids : List Text) :
    styleLines (options.bounding after) palette (drawn.map (DrawnNode.mapKind f)) ids =
      styleLines (options.bounding before) palette drawn ids := by
  unfold styleLines
  simp only [membersOf_mapKind drawn hkind]

/-- A diagram does not change if each node is drawn as the same kind as before. -/
theorem ofNodes_mapKind :
    ofNodes (options.bounding after) (nodes.map (Node.mapKind f)) =
      ofNodes (options.bounding before) nodes := by
  have hbody : bodyLines (options.bounding after) (nodes.map (Node.mapKind f)) =
      bodyLines (options.bounding before) nodes := by
    rw [bodyLines, List.isEmpty_map, body_eq, naming_mapKind options before after,
      drawNodes_mapKind, nodeLines_mapKind _ hkind, styleLines_mapKind _ hkind,
      linkLines_mapKind options before after, Graph.ofNodes_mapKind, artifactLines,
      artifactArrows_mapKind, bodyLines, body_eq]
    rfl
  have hlines : (ofNodes (options.bounding after) (nodes.map (Node.mapKind f))).lines =
      (ofNodes (options.bounding before) nodes).lines := by
    rw [lines_ofNodes, lines_ofNodes, hbody]
    rfl
  exact congrArg₂ Diagram.mk hlines rfl

end SameKinds

/-! ## Diagrams without boundaries -/

/-- Turning boundaries off is the same as having no nodes where the workflow starts or ends:
the diagram and its fallbacks are those of the nodes with a process in place of every start
and end, whether boundaries are on or off there. -/
theorem ofNodes_withoutBoundary (options : DiagramOptions) (nodes : List Node)
    (boundaries : Bool) :
    ofNodes (options.bounding false) nodes =
      ofNodes (options.bounding boundaries) (nodes.map Node.withoutBoundary) := by
  refine (ofNodes_mapKind nodes fun node => ?_).symm
  rw [DiagramOptions.drawnKind_eq, DiagramOptions.drawnKind_eq]
  cases boundaries <;> cases hkind : node.kind <;>
    simp [DiagramOptions.bounding, Node.mapKind, NodeKind.withoutBoundary, hkind]

end Diagram

end ScriptFlow
