import ScriptFlow.Proofs.Diagram.Naming

/-!
# Layout

Grouping by path changes only where nodes are defined.  A `Layout` holds what a diagram is
put together from, whether or not its nodes are grouped: `Layout.flat` puts the definitions
one below the other, `Layout.grouped` puts those with a path between the lines of the group
of this path.  Both diagrams of the same nodes come from one layout (`isOf_layout`).

The groups get their identifiers before the tokens do, from the same allocator.  This
makes no difference to the tokens (`map_snd_artifacts_naming_eq`), since the identifiers of
groups start with `f` and all candidates for those of tokens with `a`.
-/

namespace ScriptFlow

open Text

open scoped List

/-- The options with nodes in groups or not. -/
def DiagramOptions.grouping (options : DiagramOptions) (grouped : Bool) : DiagramOptions :=
  { options with groupByFile := grouped }

namespace Diagram

/-- What a diagram is put together from, with groups or without. -/
structure Layout where
  /-- The header and the title. -/
  above : List Text
  /-- The definitions of the nodes without indentation, each with the path of its node. -/
  definitions : List (FilePath × Text)
  /-- The paths that have a group, with the identifiers of the groups. -/
  groups : List (FilePath × Text)
  /-- Connections with what they need, styles and links, or the placeholder. -/
  below : List Text
  deriving DecidableEq, Repr

namespace Layout

variable (layout : Layout)

/-- Definitions as lines. -/
def indented (indentation : Text) (definitions : List (FilePath × Text)) : List Text :=
  definitions.map fun definition => indentation ++ definition.2

/-- All definitions one below the other. -/
def flat : List Text :=
  layout.above ++ indented "    " layout.definitions ++ layout.below

/-- The definitions of nodes without a path. -/
def loose : List (FilePath × Text) :=
  layout.definitions.filter fun definition => definition.1.isEmpty

/-- The definitions of nodes with a path that leads to a place. -/
def members (path : FilePath) : List (FilePath × Text) :=
  layout.definitions.filter fun definition =>
    !definition.1.isEmpty && Path.samePlace path definition.1

/-- The line that starts a group, with the name of its path. -/
def startLine (group : FilePath × Text) : Text :=
  "    subgraph " ++ group.2 ++ " [" ++
    LineForm.inQuotes (Label.escape (Text.shown ((Path.fileName? group.1).getD group.1))) ++ "]"

/-- The lines of a group: its start, the definitions of its members and its end. -/
def groupLines (group : FilePath × Text) : List Text :=
  [startLine group] ++ indented "        " (layout.members group.1) ++ (["    end"] : List Text)

/-- The definitions without a path first, and the others in their groups. -/
def grouped : List Text :=
  layout.above ++ indented "    " layout.loose ++ layout.groups.flatMap layout.groupLines ++
    layout.below

end Layout

/-- The path of a node and the line that defines it, without indentation. -/
def definition (options : DiagramOptions) (drawn : DrawnNode) : FilePath × Text :=
  (drawn.node.filePath, (options.nodeLine false drawn).content)

/-- A layout from which both diagrams of some nodes come. -/
structure Layout.IsOf (layout : Layout) (options : DiagramOptions) (nodes : List Node) : Prop where
  /-- The same fallbacks are taken. -/
  warnings_eq : (ofNodes (options.grouping true) nodes).warnings =
    (ofNodes (options.grouping false) nodes).warnings
  /-- The lines of the diagram without groups. -/
  splitOn_flat :
    (ofNodes (options.grouping false) nodes).text.splitOn '\n' = layout.flat
  /-- The lines of the diagram with groups. -/
  splitOn_grouped :
    (ofNodes (options.grouping true) nodes).text.splitOn '\n' = layout.grouped
  /-- There is one line for the header, and one for the title if it is set. -/
  length_above : layout.above.length = 1 + if options.title.isSome then 1 else 0
  /-- Every node has its definition, in the order of the table. -/
  definitions_eq : layout.definitions = (drawNodes nodes).map (definition options)
  says_definition : ∀ entry ∈ layout.definitions, LineForm.Says .definition entry.2
  /-- There is one group for each place that a node has a path to, in the order of first
  mention. -/
  groups_eq : (layout.groups.map fun group => Path.components group.1) =
    ((nodes.filter fun node => !node.filePath.isEmpty).map fun node =>
      Path.components node.filePath).eraseDups
  /-- Every definition is outside the groups or in exactly one of them. -/
  definitions_perm : layout.loose ++ layout.groups.flatMap (fun group => layout.members group.1) ~
    layout.definitions

variable {options : DiagramOptions} {nodes : List Node}

/-! ## The tokens do not depend on the groups -/

/-- The identifiers of groups are no candidates for those of tokens. -/
lemma not_mem_groupIds_of_isCandidate {taken : List Text} {groups : List NodeGroup}
    {token id : Text} (h : Fresh.IsCandidate (Ident.ofText ("artifact_" ++ token)) id) :
    id ∉ groupIds taken groups := by
  intro hmem
  obtain ⟨t, ht, hcandidate⟩ := Ident.exists_isCandidate_of_mem_allocate hmem
  obtain ⟨group, -, rfl⟩ := List.mem_map.mp ht
  have htoken : id.head? = some 'a' :=
    @Ident.head?_of_isCandidate_ofText "artifact" token id rfl h
  have hgroup : id.head? = some 'f' :=
    @Ident.head?_of_isCandidate_ofText "file" group.name id rfl hcandidate
  rw [htoken] at hgroup
  exact absurd hgroup (by decide)

/-- The tokens get the identifiers that they would get if there were no groups. -/
lemma map_snd_artifacts_naming_eq (options : DiagramOptions) (nodes : List Node) :
    (naming options nodes).artifacts.map Prod.snd =
      artifactIds (naming options nodes).nodes
        (if options.showArtifacts then artifacts (drawNodes nodes) else []) := by
  rw [map_snd_artifacts_naming, map_snd_groups_naming]
  -- a group takes no identifier that is tried for a token
  refine Ident.allocate_congr fun t ht other hother => ?_
  obtain ⟨token, -, rfl⟩ := List.mem_map.mp ht
  rw [List.mem_append, or_iff_right (not_mem_groupIds_of_isCandidate hother)]

/-- The tokens have the same identifiers with groups and without. -/
lemma artifacts_naming_grouping (grouped : Bool) :
    (naming (options.grouping grouped) nodes).artifacts =
      (naming options nodes).artifacts := by
  have hsnd : (naming (options.grouping grouped) nodes).artifacts.map Prod.snd =
      (naming options nodes).artifacts.map Prod.snd := by
    rw [map_snd_artifacts_naming_eq, map_snd_artifacts_naming_eq]
    rfl
  have hfst : (naming (options.grouping grouped) nodes).artifacts.map Prod.fst =
      (naming options nodes).artifacts.map Prod.fst := by
    rw [map_fst_artifacts_naming, map_fst_artifacts_naming]
    rfl
  exact (List.zip_of_prod hfst hsnd).trans (List.zip_of_prod rfl rfl).symm

/-! ## The lines around the definitions -/

/-- The lines below the definitions of nodes and groups. -/
def restLines (options : DiagramOptions) (nodes : List Node) : List DiagramLine :=
  if nodes.isEmpty then [.placeholder]
  else
    (if options.showArtifacts then
        artifactLines (drawNodes nodes) (Graph.ofNodes nodes) (naming options nodes).artifacts
      else edgeLines options (naming options nodes).nodes (Graph.ofNodes nodes)) ++
    (if options.styled then
        styleLines options options.resolvePalette.1 (drawNodes nodes)
          ((naming options nodes).artifacts.map Prod.snd)
      else []) ++
    linkLines options (drawNodes nodes)

/-- These lines are the same with groups and without. -/
lemma restLines_grouping (grouped : Bool) :
    restLines (options.grouping grouped) nodes = restLines options nodes := by
  unfold restLines
  rw [artifacts_naming_grouping]
  rfl

/-- A diagram is its header, its title, the definitions of its nodes and the rest. -/
lemma lines_ofNodes_eq (options : DiagramOptions) (nodes : List Node) :
    (ofNodes options nodes).lines =
      .header options.direction :: titleLines options ++
        nodeLines options (drawNodes nodes) (groups options (drawNodes nodes))
          ((naming options nodes).groups.map Prod.snd) ++
        restLines options nodes := by
  rw [lines_ofNodes, List.append_assoc, List.cons_append]
  refine congrArg _ (congrArg _ ?_)
  unfold bodyLines restLines
  -- without nodes there is nothing to define, so the placeholder comes first
  cases nodes with
  | nil => rfl
  | cons node rest =>
    rw [body_eq]
    simp only [List.append_assoc]
    rfl

/-! ## The definitions -/

/-- Nodes are drawn with identifiers. -/
lemma isIdentifier_id_of_mem_drawNodes {d : DrawnNode} (h : d ∈ drawNodes nodes) :
    isIdentifier d.id = true := by
  obtain ⟨entry, hentry, rfl⟩ := List.mem_map.mp h
  exact Ident.isIdentifier_of_mem_allocate (List.of_mem_zip hentry).2

/-- What a definition says has the form of definitions. -/
lemma says_definition {d : DrawnNode} (h : d ∈ drawNodes nodes) :
    LineForm.Says .definition (definition options d).2 :=
  DiagramLine.says_node false (isIdentifier_id_of_mem_drawNodes h) _ _

/-- The lines of nodes are their definitions, indented once or twice. -/
lemma map_text_nodeLine (grouped : Bool) {drawn : List DrawnNode}
    (hdrawn : drawn ⊆ drawNodes nodes) :
    (drawn.map (options.nodeLine grouped)).map DiagramLine.text =
      Layout.indented (if grouped then "        " else "    ")
        (drawn.map (definition options)) := by
  rw [Layout.indented, List.map_map, List.map_map]
  refine List.map_congr_left fun d hd => ?_
  have hid := isIdentifier_id_of_mem_drawNodes (hdrawn hd)
  have htext : (options.nodeLine grouped d).text =
      (options.nodeLine grouped d).indentation ++ (options.nodeLine grouped d).content :=
    DiagramLine.text_eq_append (DiagramLine.says_node grouped hid _ _)
  rw [Function.comp_apply, htext]
  cases grouped <;> rfl

/-- Without groups the nodes are defined one below the other. -/
lemma nodeLines_flat (drawn : List DrawnNode) (ids : List Text) :
    nodeLines (options.grouping false) drawn
        (groups (options.grouping false) drawn) ids =
      drawn.map (options.nodeLine false) := by
  have hloose : drawn.filter (isLoose (options.grouping false)) = drawn :=
    List.filter_eq_self.mpr fun _ _ => rfl
  have hnone : drawn.filter (fun d => !isLoose (options.grouping false) d) = [] :=
    List.filter_eq_nil_iff.mpr fun _ _ => Bool.false_ne_true
  rw [nodeLines, hloose, groups, hnone]
  exact List.append_nil _

/-! ## The layout of a diagram -/

/-- The layout of the diagrams of some nodes. -/
def layout (options : DiagramOptions) (nodes : List Node) : Layout where
  above := (.header options.direction :: titleLines options).map DiagramLine.text
  definitions := (drawNodes nodes).map (definition options)
  groups := (naming (options.grouping true) nodes).groups
  below := (restLines options nodes).map DiagramLine.text

/-- The lines of a diagram without groups. -/
lemma splitOn_text_flat (options : DiagramOptions) (nodes : List Node) :
    (ofNodes (options.grouping false) nodes).text.splitOn '\n' =
      (layout options nodes).flat := by
  rw [splitOn_text_ofNodes, lines_ofNodes_eq, nodeLines_flat, restLines_grouping,
    List.map_append, List.map_append, map_text_nodeLine false (List.Subset.refl _)]
  rfl

/-- The nodes that are in no group are those without a path. -/
lemma loose_layout (options : DiagramOptions) (nodes : List Node) :
    (layout options nodes).loose =
      ((drawNodes nodes).filter (isLoose (options.grouping true))).map (definition options) := by
  rw [Layout.loose, layout, List.filter_map]
  rfl

/-- The nodes of a group are those with a path to its place. -/
lemma map_definition_members {group : NodeGroup}
    (h : group ∈ groups (options.grouping true) (drawNodes nodes)) :
    group.members.map (definition options) = (layout options nodes).members group.path := by
  rw [NodeGroup.members_of_mem_ofNodes h, List.filter_filter, Layout.members, layout,
    List.filter_map]
  refine congrArg _ (List.filter_congr fun d _ => ?_)
  have hplace : decide (NodeGroup.placeOf d = group.place) =
      Path.samePlace group.path d.node.filePath := by
    rw [Path.samePlace, beq_eq_decide]
    exact decide_eq_decide.mpr eq_comm
  rw [hplace, Bool.and_comm]
  rfl

/-- The lines of a group. -/
lemma map_text_lines {group : NodeGroup} {id : Text}
    (h : group ∈ groups (options.grouping true) (drawNodes nodes))
    (hid : isIdentifier id = true) :
    (group.lines options id).map DiagramLine.text =
      (layout options nodes).groupLines (group.path, id) := by
  have hmembers : group.members ⊆ drawNodes nodes := fun d hd =>
    (List.mem_filter.mp (NodeGroup.mem_of_mem_ofNodes h hd)).1
  rw [NodeGroup.lines, List.map_append, List.map_append, map_text_nodeLine true hmembers,
    map_definition_members h]
  have hstart : (DiagramLine.groupStart id (Label.escape group.name)).text =
      Layout.startLine (group.path, id) :=
    DiagramLine.text_eq_append (DiagramLine.says_groupStart hid _)
  have hend : DiagramLine.groupEnd.text = "    end" :=
    DiagramLine.text_eq_append .groupEnd
  rw [List.map_singleton, List.map_singleton, hstart, hend]
  rfl

/-- The lines of all groups. -/
lemma map_text_flatMap_lines (options : DiagramOptions) (nodes : List Node) :
    (((groups (options.grouping true) (drawNodes nodes)).zip
        ((naming (options.grouping true) nodes).groups.map Prod.snd)).flatMap
          fun (group, id) => group.lines (options.grouping true) id).map DiagramLine.text =
      (layout options nodes).groups.flatMap (layout options nodes).groupLines := by
  have hgroups : (layout options nodes).groups =
      ((groups (options.grouping true) (drawNodes nodes)).zip
        ((naming (options.grouping true) nodes).groups.map Prod.snd)).map
          (Prod.map NodeGroup.path id) := by
    rw [map_snd_groups_naming, ← List.zip_map_left]
    rfl
  rw [hgroups, List.map_flatMap, List.flatMap_map]
  refine List.flatMap_congr fun ⟨group, id⟩ hpair => ?_
  obtain ⟨hgroup, hid⟩ := List.of_mem_zip hpair
  rw [map_snd_groups_naming] at hid
  exact map_text_lines hgroup (Ident.isIdentifier_of_mem_allocate hid)

/-- The lines of a diagram with groups. -/
lemma splitOn_text_grouped (options : DiagramOptions) (nodes : List Node) :
    (ofNodes (options.grouping true) nodes).text.splitOn '\n' =
      (layout options nodes).grouped := by
  have hlines : (((drawNodes nodes).filter (isLoose (options.grouping true))).map
      ((options.grouping true).nodeLine false)).map DiagramLine.text =
        Layout.indented "    " (layout options nodes).loose := by
    rw [loose_layout]
    exact map_text_nodeLine false List.filter_sublist.subset
  rw [splitOn_text_ofNodes, lines_ofNodes_eq, restLines_grouping, List.map_append,
    List.map_append, nodeLines, List.map_append, map_text_flatMap_lines, hlines,
    ← List.append_assoc]
  rfl

/-- There is one group for each place that a node has a path to. -/
lemma map_place_groups_layout (options : DiagramOptions) (nodes : List Node) :
    ((layout options nodes).groups.map fun group => Path.components group.1) =
      ((nodes.filter fun node => !node.filePath.isEmpty).map fun node =>
        Path.components node.filePath).eraseDups := by
  have hnodes : ((nodes.filter fun node => !node.filePath.isEmpty).map fun node =>
        Path.components node.filePath) =
      ((drawNodes nodes).filter fun d => !isLoose (options.grouping true) d).map
        NodeGroup.placeOf := by
    conv_lhs => rw [← map_node_drawNodes nodes, List.filter_map, List.map_map]
    rfl
  rw [hnodes]
  exact map_place_groups_naming (options.grouping true) nodes

/-- Every definition is outside the groups or in one of them. -/
lemma definitions_perm_layout (options : DiagramOptions) (nodes : List Node) :
    (layout options nodes).loose ++
        (layout options nodes).groups.flatMap (fun group =>
          (layout options nodes).members group.1) ~
      (layout options nodes).definitions := by
  set drawnGroups := groups (options.grouping true) (drawNodes nodes) with hdrawnGroups
  have hpaths : (layout options nodes).groups.map Prod.fst = drawnGroups.map NodeGroup.path :=
    map_fst_groups_naming (options.grouping true) nodes
  have hmembers : (layout options nodes).groups.flatMap (fun group =>
        (layout options nodes).members group.1) =
      (drawnGroups.flatMap NodeGroup.members).map (definition options) := by
    rw [← List.flatMap_map, hpaths, List.flatMap_map, List.map_flatMap]
    exact List.flatMap_congr fun group hgroup => (map_definition_members hgroup).symm
  have hgrouped : drawnGroups.flatMap NodeGroup.members ~
      (drawNodes nodes).filter fun d => !isLoose (options.grouping true) d :=
    NodeGroup.flatMap_members_ofNodes _
  rw [hmembers, loose_layout, ← List.map_append]
  exact ((hgrouped.append_left _).trans (List.filter_append_perm _ _)).map _

/-- Grouping by path changes nothing but where nodes are defined: with groups and without,
a diagram is put together from the same header, title, definitions and other lines. -/
theorem isOf_layout (options : DiagramOptions) (nodes : List Node) :
    (layout options nodes).IsOf options nodes where
  warnings_eq := rfl
  splitOn_flat := splitOn_text_flat options nodes
  splitOn_grouped := splitOn_text_grouped options nodes
  length_above := by
    rw [layout, List.map_cons, List.length_cons, List.length_map, titleLines, List.length_map,
      Nat.add_comm]
    cases options.title <;> rfl
  definitions_eq := rfl
  says_definition := fun entry hentry => by
    obtain ⟨d, hd, rfl⟩ := List.mem_map.mp hentry
    exact says_definition hd
  groups_eq := map_place_groups_layout options nodes
  definitions_perm := definitions_perm_layout options nodes

end Diagram

end ScriptFlow
