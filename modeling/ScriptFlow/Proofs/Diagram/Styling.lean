import ScriptFlow.Proofs.Diagram.Boundaries

/-!
# Styling

Styles add two blocks of lines to a diagram and change no other line: the styles of the kinds
that occur, and below them the members of these kinds.  A `Styling` holds what a diagram is
put together from, with styles or without, and `isOf_styling` says what is in the blocks:
every node and every token is a member of exactly one kind, the one that it is drawn as.

The members of a kind are a part of the nodes by key, with the tokens behind the nodes that
are drawn as tokens are.  The kinds without members have no lines, and leaving them out
leaves out no identifier, so the members of all kinds that occur are all the nodes and
tokens in another order (`flatMap_members_perm`).
-/

namespace ScriptFlow

open Text

open scoped List

/-- Every kind of nodes is listed. -/
lemma NodeKind.mem_all (kind : NodeKind) : kind ∈ all := by
  cases kind <;> decide

/-- Whether a line is a style or the members of a kind. -/
def DiagramLine.isStyling : DiagramLine → Bool
  | style .. => true
  | members .. => true
  | _ => false

/-- The options with styles or without. -/
def DiagramOptions.styling (options : DiagramOptions) (styled : Bool) : DiagramOptions :=
  { options with styled }

namespace Diagram

/-- What a diagram is put together from, with styles or without. -/
structure Styling where
  /-- The lines down to the connections, or down to the placeholder. -/
  above : List Text
  /-- The kinds that have a style. -/
  styles : List (NodeKind × Style)
  /-- The kinds that have members, with the identifiers of these. -/
  members : List (NodeKind × List Text)
  /-- The links. -/
  below : List Text
  deriving DecidableEq, Repr

namespace Styling

variable (styling : Styling)

/-- The line that gives a kind its style. -/
def styleLine (entry : NodeKind × Style) : Text :=
  "    classDef " ++ entry.1.tag ++ "Style fill:" ++ entry.2.fill.text ++ ",stroke:" ++
    entry.2.stroke.text ++ ",stroke-width:" ++ DiagramLine.strokeWidth entry.1 ++ ",color:" ++
    entry.2.color.text

/-- The line that gives identifiers the style of a kind. -/
def membersLine (entry : NodeKind × List Text) : Text :=
  "    class " ++ join [','] entry.2 ++ " " ++ entry.1.tag ++ "Style"

/-- The lines without styles. -/
def plain : List Text :=
  styling.above ++ styling.below

/-- The lines with styles: all styles before all members, and both before the links. -/
def styled : List Text :=
  styling.above ++ styling.styles.map styleLine ++ styling.members.map membersLine ++
    styling.below

end Styling

/-- A styling from which the diagrams of some nodes come, with styles and without. -/
structure Styling.IsOf (styling : Styling) (options : DiagramOptions) (nodes : List Node) :
    Prop where
  /-- The same fallbacks are taken. -/
  warnings_eq : (ofNodes (options.styling true) nodes).warnings =
    (ofNodes (options.styling false) nodes).warnings
  splitOn_styled :
    (ofNodes (options.styling true) nodes).text.splitOn '\n' = styling.styled
  splitOn_plain :
    (ofNodes (options.styling false) nodes).text.splitOn '\n' = styling.plain
  /-- Without styles no line is one of a style or of members. -/
  not_spells : ∀ line ∈ styling.plain,
    ¬LineForm.style.Spells line ∧ ¬LineForm.members.Spells line
  spells_styleLine : ∀ entry ∈ styling.styles, LineForm.style.Spells (styleLine entry)
  spells_membersLine : ∀ entry ∈ styling.members, LineForm.members.Spells (membersLine entry)
  /-- The kinds with a style are those with members, in the same order. -/
  kinds_eq : styling.styles.map Prod.fst = styling.members.map Prod.fst
  /-- This is the order of all kinds, and no kind is there twice. -/
  kinds_sublist : styling.members.map Prod.fst <+ NodeKind.all
  style_eq : ∀ entry ∈ styling.styles, entry.2 = options.resolvePalette.1.style entry.1
  /-- A node is drawn as what it is, or as a process where it would be a start or an end and
  boundaries are off. -/
  drawnKind_eq : ∀ node ∈ nodes, options.drawnKind node =
    if options.boundaries then node.kind else node.kind.withoutBoundary
  /-- A kind has the nodes that are drawn as it, in the order of the table, and the kind of
  tokens has the tokens behind them. -/
  members_eq : ∀ entry ∈ styling.members,
    entry.2 = (naming options nodes).members options nodes entry.1
  /-- Every node is a member of the kind that it is drawn as. -/
  mem_of_node : ∀ entry ∈ nodes.zip (naming options nodes).nodes,
    ∃ ids, (options.drawnKind entry.1, ids) ∈ styling.members ∧ entry.2 ∈ ids
  /-- Every token is a member of the kind of tokens. -/
  mem_of_artifact : ∀ id ∈ (naming options nodes).artifacts.map Prod.snd,
    ∃ ids, (.artifact, ids) ∈ styling.members ∧ id ∈ ids
  /-- Nothing but nodes and tokens is a member of a kind. -/
  members_perm : styling.members.flatMap Prod.snd ~
    (naming options nodes).nodes ++ (naming options nodes).artifacts.map Prod.snd
  /-- No identifier is there twice, neither in one line nor in two. -/
  nodup : (styling.members.flatMap Prod.snd).Nodup

variable {options : DiagramOptions} {nodes : List Node}

/-! ## The members of all kinds -/

/-- The kinds that some node or token is drawn as. -/
def presentKinds (options : DiagramOptions) (nodes : List Node) : List NodeKind :=
  NodeKind.all.filter fun kind => !((naming options nodes).members options nodes kind).isEmpty

lemma mem_presentKinds {kind : NodeKind} :
    kind ∈ presentKinds options nodes ↔
      (naming options nodes).members options nodes kind ≠ [] := by
  simp [presentKinds, NodeKind.mem_all]

/-- The identifier of a node is a member of the kind that the node is drawn as. -/
lemma mem_members_of_mem_zip {entry : Node × Text}
    (h : entry ∈ nodes.zip (naming options nodes).nodes) :
    entry.2 ∈ (naming options nodes).members options nodes (options.drawnKind entry.1) :=
  List.mem_append_left _ (List.mem_map_of_mem (List.mem_filter.mpr ⟨h, beq_self_eq_true _⟩))

/-- The identifier of a token is a member of the kind of tokens. -/
lemma mem_members_of_mem_artifacts {id : Text}
    (h : id ∈ (naming options nodes).artifacts.map Prod.snd) :
    id ∈ (naming options nodes).members options nodes .artifact :=
  List.mem_append_right _ h

/-- Tokens come last among the members of all kinds. -/
lemma flatMap_all_append (parts : NodeKind → List Text) (tokens : List Text) :
    (NodeKind.all.flatMap fun kind => parts kind ++ if kind = .artifact then tokens else []) =
      NodeKind.all.flatMap parts ++ tokens := by
  simp [NodeKind.all]

/-- The members of all kinds that occur are the nodes and tokens, each once. -/
lemma flatMap_members_perm (options : DiagramOptions) (nodes : List Node) :
    (presentKinds options nodes).flatMap ((naming options nodes).members options nodes) ~
      (naming options nodes).nodes ++ (naming options nodes).artifacts.map Prod.snd := by
  have hids : (nodes.zip (naming options nodes).nodes).map Prod.snd =
      (naming options nodes).nodes := List.map_snd_zip (length_nodes_naming options nodes).le
  have hnodes : (NodeKind.all.flatMap fun kind =>
      (nodes.zip (naming options nodes).nodes).filter fun entry =>
        options.drawnKind entry.1 == kind) ~ nodes.zip (naming options nodes).nodes :=
    flatMap_filter_perm (fun entry : Node × Text => options.drawnKind entry.1) (by decide)
      fun _ _ => NodeKind.mem_all _
  -- kinds without members add nothing
  have hpresent : (presentKinds options nodes).flatMap
        ((naming options nodes).members options nodes) =
      NodeKind.all.flatMap ((naming options nodes).members options nodes) :=
    calc (presentKinds options nodes).flatMap ((naming options nodes).members options nodes)
      _ = ((NodeKind.all.map ((naming options nodes).members options nodes)).filter
            fun ids => !ids.isEmpty).flatten := by
        rw [List.filter_map]
        rfl
      _ = NodeKind.all.flatMap ((naming options nodes).members options nodes) :=
        List.flatten_filter_not_isEmpty
  rw [hpresent]
  unfold Naming.members
  rw [flatMap_all_append, ← List.map_flatMap]
  exact ((hnodes.map Prod.snd).trans (.of_eq hids)).append_right _

/-- No identifier is a member of two kinds, or of one kind twice. -/
lemma nodup_flatMap_members (options : DiagramOptions) (nodes : List Node) :
    ((presentKinds options nodes).flatMap
      ((naming options nodes).members options nodes)).Nodup := by
  rw [(flatMap_members_perm options nodes).nodup_iff]
  obtain ⟨hnodes, htokens, hapart⟩ := List.nodup_append.mp (nodup_ids_naming options nodes)
  refine List.nodup_append.mpr ⟨(List.nodup_append.mp hnodes).1, htokens, fun id hid => ?_⟩
  exact hapart id (List.mem_append_left _ hid)

/-! ## The lines around the styles -/

/-- The lines down to the connections, or down to the placeholder. -/
def aboveLines (options : DiagramOptions) (nodes : List Node) : List DiagramLine :=
  .header options.direction :: titleLines options ++
    if nodes.isEmpty then [.placeholder]
    else
      nodeLines options (drawNodes nodes) (groups options (drawNodes nodes))
          ((naming options nodes).groups.map Prod.snd) ++
        if options.showArtifacts then
          artifactLines (drawNodes nodes) (Graph.ofNodes nodes) (naming options nodes).artifacts
        else edgeLines options (naming options nodes).nodes (Graph.ofNodes nodes)

/-- The lines of styles and members. -/
def classLines (options : DiagramOptions) (nodes : List Node) : List DiagramLine :=
  ((presentKinds options nodes).map fun kind =>
      .style kind (options.resolvePalette.1.style kind)) ++
    (presentKinds options nodes).map fun kind =>
      .members kind ((naming options nodes).members options nodes kind)

/-- Without nodes no kind occurs. -/
lemma presentKinds_nil (options : DiagramOptions) : presentKinds options [] = [] := by
  have htokens : (naming options []).artifacts = [] := by
    rw [naming]
    cases options.showArtifacts <;> rfl
  simp [presentKinds, Naming.members, htokens]

/-- A diagram has the lines of styles and members before the links, if it has styles. -/
lemma lines_ofNodes_styling (options : DiagramOptions) (nodes : List Node) (styled : Bool) :
    (ofNodes (options.styling styled) nodes).lines =
      aboveLines options nodes ++ (if styled then classLines options nodes else []) ++
        linkLines options (drawNodes nodes) := by
  have hstyles : styleLines options options.resolvePalette.1 (drawNodes nodes)
      ((naming options nodes).artifacts.map Prod.snd) = classLines options nodes := by
    unfold styleLines
    simp only [membersOf_eq]
    rfl
  rw [lines_ofNodes, bodyLines, body_eq, aboveLines, ← hstyles]
  cases nodes with
  | nil =>
    have hnone : styleLines options options.resolvePalette.1 (drawNodes [])
        ((naming options []).artifacts.map Prod.snd) = [] := by
      rw [hstyles, classLines, presentKinds_nil]
      rfl
    have hlinks : linkLines options (drawNodes []) = [] := by
      unfold linkLines
      split <;> rfl
    rw [hnone, hlinks, ite_self, List.append_nil, List.append_nil]
    rfl
  | cons node rest =>
    simp only [List.isEmpty_cons, Bool.false_eq_true, if_false, List.append_assoc]
    rfl

/-! ## The text of the lines -/

/-- The text of the style of a kind. -/
lemma text_style (kind : NodeKind) (colors : Style) :
    (DiagramLine.style kind colors).text = Styling.styleLine (kind, colors) :=
  DiagramLine.text_eq_append (DiagramLine.says_style kind colors)

/-- The members of a kind are identifiers. -/
lemma isIdentifier_of_mem_members {kind : NodeKind} {id : Text}
    (h : id ∈ (naming options nodes).members options nodes kind) : isIdentifier id = true := by
  have hrefers : (naming options nodes).Refers options nodes
      (.members kind ((naming options nodes).members options nodes kind)) := .members kind
  exact isIdentifier_of_mem_ids (hrefers.mem_ids h)

/-- The text of the members of a kind that occurs. -/
lemma text_members {kind : NodeKind} (h : kind ∈ presentKinds options nodes) :
    (DiagramLine.members kind ((naming options nodes).members options nodes kind)).text =
      Styling.membersLine (kind, (naming options nodes).members options nodes kind) :=
  DiagramLine.text_eq_append
    (DiagramLine.says_members kind (mem_presentKinds.mp h) fun _ => isIdentifier_of_mem_members)

/-- The line of a style has the form of styles. -/
lemma spells_styleLine (entry : NodeKind × Style) :
    LineForm.style.Spells (Styling.styleLine entry) := by
  obtain ⟨form, hform, hspells⟩ := DiagramLine.fits_style entry.1 entry.2
  rw [text_style] at hspells
  cases hform
  exact hspells

/-- The line of the members of a kind that occurs has the form of members. -/
lemma spells_membersLine {kind : NodeKind} (h : kind ∈ presentKinds options nodes) :
    LineForm.members.Spells
      (Styling.membersLine (kind, (naming options nodes).members options nodes kind)) := by
  obtain ⟨form, hform, hspells⟩ := DiagramLine.fits_members kind (mem_presentKinds.mp h)
    fun _ => isIdentifier_of_mem_members
  rw [text_members h] at hspells
  cases hform
  exact hspells

/-- A text that reads as something else has neither the form of styles nor that of members. -/
lemma not_spells_of_ofContent {line : Text} {form : LineForm}
    (h : LineForm.ofContent (trimStart line) = form) (hform : form ∉ [.style, .members]) :
    ¬LineForm.style.Spells line ∧ ¬LineForm.members.Spells line := by
  subst h
  constructor
  · intro hspells
    rw [hspells.says_trimStart.ofContent_eq] at hform
    exact hform (by decide)
  · intro hspells
    rw [hspells.says_trimStart.ofContent_eq] at hform
    exact hform (by decide)

/-- A line that fits and is neither a style nor members has not their form. -/
lemma not_spells_of_fits {line : DiagramLine} (h : line.Fits) (hplain : line.isStyling = false) :
    ¬LineForm.style.Spells line.text ∧ ¬LineForm.members.Spells line.text := by
  obtain ⟨form, hform, hspells⟩ := h
  refine not_spells_of_ofContent hspells.says_trimStart.ofContent_eq fun hmem => ?_
  cases line with
  | style => cases hplain
  | members => cases hplain
  | _ => cases hform <;> exact absurd hmem (by decide)

/-- Nodes and groups are defined without styles. -/
lemma isStyling_of_mem_nodeLines {groups : List NodeGroup} {ids : List Text}
    {drawn : List DrawnNode} {line : DiagramLine} (h : line ∈ nodeLines options drawn groups ids) :
    line.isStyling = false := by
  rcases List.mem_append.mp h with h | h
  · obtain ⟨d, -, rfl⟩ := List.mem_map.mp h
    rfl
  · obtain ⟨⟨group, id⟩, -, h⟩ := List.mem_flatMap.mp h
    simp only [NodeGroup.lines, List.mem_append, List.mem_singleton, List.mem_map] at h
    rcases h with (rfl | ⟨d, -, rfl⟩) | rfl <;> rfl

/-- Tokens and connections are drawn without styles. -/
lemma isStyling_of_mem_artifactLines {drawn : List DrawnNode} {graph : Graph}
    {ids : List (Text × Text)} {line : DiagramLine} (h : line ∈ artifactLines drawn graph ids) :
    line.isStyling = false := by
  rcases List.mem_append.mp h with h | h
  · obtain ⟨entry, -, rfl⟩ := List.mem_map.mp h
    rfl
  · obtain ⟨a, -, rfl⟩ := List.mem_map.mp h
    rfl

/-- No line of a diagram without styles has the form of a style or of members. -/
lemma not_spells_of_mem_lines {line : DiagramLine}
    (h : line ∈ (ofNodes (options.styling false) nodes).lines) :
    ¬LineForm.style.Spells line.text ∧ ¬LineForm.members.Spells line.text := by
  have hheader : ∀ direction,
      LineForm.ofContent (trimStart (DiagramLine.header direction).text) = .link := by
    intro direction
    cases direction <;> decide
  have hplaceholder : LineForm.ofContent (trimStart DiagramLine.placeholder.text) = .definition := by
    decide
  rw [lines_ofNodes] at h
  rcases List.mem_cons.mp h with rfl | h
  · exact not_spells_of_ofContent (hheader _) (by decide)
  rcases List.mem_append.mp h with h | h
  · exact not_spells_of_ofContent (ofContent_trimStart_of_mem_titleLines h) (by decide)
  unfold bodyLines at h
  split at h
  · rw [List.mem_singleton.mp h]
    exact not_spells_of_ofContent hplaceholder (by decide)
  refine not_spells_of_fits (fits_of_mem_body h) ?_
  rw [body_eq] at h
  rcases List.mem_append.mp h with h | h
  · rcases List.mem_append.mp h with h | h
    · rcases List.mem_append.mp h with h | h
      · exact isStyling_of_mem_nodeLines h
      · split at h
        · exact isStyling_of_mem_artifactLines h
        · obtain ⟨edge, -, rfl⟩ := List.mem_map.mp h
          rfl
    · exact absurd h List.not_mem_nil
  · unfold linkLines at h
    split at h
    · exact absurd h List.not_mem_nil
    · obtain ⟨d, -, rfl⟩ := List.mem_map.mp h
      rfl

/-! ## The styling of a diagram -/

/-- The styling of the diagrams of some nodes. -/
def styling (options : DiagramOptions) (nodes : List Node) : Styling where
  above := (aboveLines options nodes).map DiagramLine.text
  styles := (presentKinds options nodes).map fun kind =>
    (kind, options.resolvePalette.1.style kind)
  members := (presentKinds options nodes).map fun kind =>
    (kind, (naming options nodes).members options nodes kind)
  below := (linkLines options (drawNodes nodes)).map DiagramLine.text

/-- The text of the lines of styles and members. -/
lemma map_text_classLines (options : DiagramOptions) (nodes : List Node) :
    (classLines options nodes).map DiagramLine.text =
      (styling options nodes).styles.map Styling.styleLine ++
        (styling options nodes).members.map Styling.membersLine := by
  rw [classLines, List.map_append, styling, List.map_map, List.map_map, List.map_map,
    List.map_map]
  refine congrArg₂ _ (List.map_congr_left fun kind _ => ?_) (List.map_congr_left fun kind hkind => ?_)
  · exact text_style kind _
  · exact text_members hkind

/-- The lines of a diagram with styles. -/
lemma splitOn_text_styled (options : DiagramOptions) (nodes : List Node) :
    (ofNodes (options.styling true) nodes).text.splitOn '\n' =
      (styling options nodes).styled := by
  rw [splitOn_text_ofNodes, lines_ofNodes_styling, if_pos rfl, List.map_append, List.map_append,
    map_text_classLines, ← List.append_assoc]
  rfl

/-- The lines of a diagram without styles. -/
lemma splitOn_text_plain (options : DiagramOptions) (nodes : List Node) :
    (ofNodes (options.styling false) nodes).text.splitOn '\n' =
      (styling options nodes).plain := by
  rw [splitOn_text_ofNodes, lines_ofNodes_styling, if_neg Bool.false_ne_true, List.append_nil,
    List.map_append]
  rfl

/-- The members of a kind that occurs are listed. -/
lemma exists_mem_members_styling {kind : NodeKind} {id : Text}
    (h : id ∈ (naming options nodes).members options nodes kind) :
    ∃ ids, (kind, ids) ∈ (styling options nodes).members ∧ id ∈ ids :=
  ⟨_, List.mem_map_of_mem (mem_presentKinds.mpr (List.ne_nil_of_mem h)), h⟩

/-- Styles cover every node and every token exactly once.  A diagram with styles has two
blocks of lines more than one without: the styles of the kinds that occur, in the order of all
kinds, and below them the members of these kinds.  Every node is a member of the one kind that
it is drawn as and every token of the kind of tokens, in the order of the table with the
tokens last. -/
theorem isOf_styling (options : DiagramOptions) (nodes : List Node) :
    (styling options nodes).IsOf options nodes where
  warnings_eq := rfl
  splitOn_styled := splitOn_text_styled options nodes
  splitOn_plain := splitOn_text_plain options nodes
  not_spells := fun line hline => by
    rw [← splitOn_text_plain, splitOn_text_ofNodes] at hline
    obtain ⟨drawn, hdrawn, rfl⟩ := List.mem_map.mp hline
    exact not_spells_of_mem_lines hdrawn
  spells_styleLine := fun entry _ => spells_styleLine entry
  spells_membersLine := List.forall_mem_map.mpr fun _ hkind => spells_membersLine hkind
  kinds_eq := by
    rw [styling, List.map_map, List.map_map]
    rfl
  kinds_sublist := by
    have hkinds : (styling options nodes).members.map Prod.fst = presentKinds options nodes := by
      rw [styling, List.map_map]
      exact List.map_id _
    rw [hkinds]
    exact List.filter_sublist
  style_eq := List.forall_mem_map.mpr fun _ _ => rfl
  drawnKind_eq := fun node _ => options.drawnKind_eq node
  members_eq := List.forall_mem_map.mpr fun _ _ => rfl
  mem_of_node := fun entry hentry => exists_mem_members_styling (mem_members_of_mem_zip hentry)
  mem_of_artifact := fun id hid => exists_mem_members_styling (mem_members_of_mem_artifacts hid)
  members_perm := by
    rw [styling, List.flatMap_map]
    exact flatMap_members_perm options nodes
  nodup := by
    rw [styling, List.flatMap_map]
    exact nodup_flatMap_members options nodes

/-- Without boundaries a start is a process among others, and the tokens are members behind the
nodes that are drawn as tokens are. -/
example :
    (styling { showArtifacts := true, boundaries := false }
      [{ id := "a", kind := .start, outputs := ["x.csv"] }, { id := "b", kind := .artifact },
        { id := "c", inputs := ["x.csv"] }]).members =
      ([(.process, ["a", "c"]), (.artifact, ["b", "artifact_x_csv"])] :
        List (NodeKind × List Text)) := by
  decide

end Diagram

end ScriptFlow
