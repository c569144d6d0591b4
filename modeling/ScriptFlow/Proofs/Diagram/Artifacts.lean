import ScriptFlow.Proofs.Diagram.Naming

/-!
# Diagrams that show artifacts

When tokens are drawn, the connections of a diagram come from the lists of the nodes
and not from the data edges of the graph.  Both say the same (`agreesWithGraph_naming`):
one node leads to another along a token exactly where the first has a line to the
artifact of this token and this artifact has a line to the second.

Repetitions among the arrows are found by their ends alone.  This drops no arrow for
good (`mem_artifactArrows_iff`): an arrow of data has the identifier of an artifact at
one end, an arrow of a dependency at neither, so the ends tell the kind.
-/

namespace ScriptFlow

open Text

/-- The arrow that a line draws, if it is a connection without a label. -/
def DiagramLine.asArrow? : DiagramLine → Option Diagram.Arrow
  | edge source kind none target => some ⟨source, kind, target⟩
  | _ => none

/-- The text of the connection that an arrow is drawn as. -/
def Diagram.Arrow.line (a : Diagram.Arrow) : Text :=
  "    " ++ a.source ++ " " ++ DiagramLine.arrow a.kind ++ " " ++ a.target

/-- The text of a connection with a label. -/
def Diagram.Arrow.labelledLine (a : Diagram.Arrow) (label : Text) : Text :=
  "    " ++ a.source ++ " " ++ DiagramLine.arrow a.kind ++ "|" ++ label ++ "| " ++ a.target

/-- Lines of text that connect nodes through artifacts as the graph connects them. -/
structure Naming.AgreesWithGraph (naming : Naming) (nodes : List Node) (lines : List Text) :
    Prop where
  /-- Every node of the table has an identifier. -/
  length_nodes : naming.nodes.length = nodes.length
  /-- One node leads to another along a token through the artifact of this token. -/
  data : ∀ {i j : Nat} {source target : Text} (token : Text), i ≠ j →
    naming.nodes[i]? = some source → naming.nodes[j]? = some target →
      ((⟨i, j, token, .data⟩ : Edge) ∈ (Graph.ofNodes nodes).edges ↔
        ∃ artifact, (token, artifact) ∈ naming.artifacts ∧
          Diagram.Arrow.line ⟨source, .data, artifact⟩ ∈ lines ∧
          Diagram.Arrow.line ⟨artifact, .data, target⟩ ∈ lines)
  /-- One node leads to another along a dependency in both or in neither. -/
  dependency : ∀ {i j : Nat} {source target : Text},
    naming.nodes[i]? = some source → naming.nodes[j]? = some target →
      (Diagram.Arrow.line ⟨source, .dependency, target⟩ ∈ lines ↔
        ∃ token, (⟨i, j, token, .dependency⟩ : Edge) ∈ (Graph.ofNodes nodes).edges)
  /-- No line along data joins two nodes directly, with or without a label. -/
  indirect : ∀ source ∈ naming.nodes, ∀ target ∈ naming.nodes,
    Diagram.Arrow.line ⟨source, .data, target⟩ ∉ lines ∧
      ∀ label, Diagram.Arrow.labelledLine ⟨source, .data, target⟩ label ∉ lines
  /-- No connection is drawn twice. -/
  distinct : ∀ line, LineForm.connection.Spells line → lines.count line ≤ 1

namespace Diagram

variable {options : DiagramOptions} {nodes : List Node}

/-! ## Arrows and what they join -/

/-- The identifier of a node is not that of an artifact. -/
lemma not_mem_artifacts_of_mem_nodes {id : Text} (h : id ∈ (naming options nodes).nodes) :
    id ∉ (naming options nodes).artifacts.map Prod.snd := by
  obtain ⟨-, -, hapart⟩ := List.nodup_append.mp (nodup_ids_naming options nodes)
  exact fun hartifact => hapart id (List.mem_append_left _ h) id hartifact rfl

/-- The ends of an arrow tell its kind. -/
lemma kind_eq_of_joins {source target : Text} {kind kind' : EdgeKind}
    (h : (naming options nodes).Joins nodes ⟨source, kind, target⟩)
    (h' : (naming options nodes).Joins nodes ⟨source, kind', target⟩) : kind = kind' := by
  have hdata : ∀ {source target}, (naming options nodes).Joins nodes ⟨source, .data, target⟩ →
      ¬(naming options nodes).Joins nodes ⟨source, .dependency, target⟩ := by
    intro source target hdata hdependency
    cases hdependency with
    | sourced hedge hkind hsource htarget =>
      cases hdata with
      | written hnode htoken hartifact =>
        exact not_mem_artifacts_of_mem_nodes (List.mem_of_getElem? htarget)
          (List.mem_map_of_mem (f := Prod.snd) hartifact)
      | read hnode htoken hartifact =>
        exact not_mem_artifacts_of_mem_nodes (List.mem_of_getElem? hsource)
          (List.mem_map_of_mem (f := Prod.snd) hartifact)
  cases kind with
  | data =>
    cases kind' with
    | data => rfl
    | dependency => exact absurd h' (hdata h)
  | dependency =>
    cases kind' with
    | data => exact absurd h (hdata h')
    | dependency => rfl

/-- The identifier of a token is the one that is found for it. -/
lemma find?_eq_some_of_mem_artifacts {artifacts : List (Text × Text)} {token id : Text}
    (hnodup : (artifacts.map Prod.fst).Nodup) (h : (token, id) ∈ artifacts) :
    (artifacts.find? fun entry => entry.1 == token).map Prod.snd = some id := by
  induction artifacts with
  | nil => exact absurd h List.not_mem_nil
  | cons entry rest ih =>
    obtain ⟨hnew, hrest⟩ := List.nodup_cons.mp hnodup
    rcases List.mem_cons.mp h with rfl | h
    · rw [List.find?_cons_of_pos (by simp), Option.map_some]
    · have hother : ¬(entry.1 == token) = true := by
        rw [beq_iff_eq]
        rintro rfl
        exact hnew (List.mem_map.mpr ⟨(entry.1, id), h, rfl⟩)
      rw [List.find?_cons_of_neg (by simpa using hother)]
      exact ih hrest h

/-- The arrows of a diagram join nodes and artifacts in all the ways that they are
joined. -/
theorem mem_artifactArrows_iff {a : Arrow} :
    a ∈ artifactArrows (drawNodes nodes) (Graph.ofNodes nodes) (naming options nodes).artifacts ↔
      (naming options nodes).Joins nodes a := by
  refine ⟨joins_of_mem_artifactArrows, fun hjoins => ?_⟩
  have hfound : ∀ {token id}, (token, id) ∈ (naming options nodes).artifacts →
      ((naming options nodes).artifacts.find? fun entry => entry.1 == token).map Prod.snd =
        some id :=
    fun h => find?_eq_some_of_mem_artifacts (nodup_map_fst_artifacts_naming options nodes) h
  have hends : ∀ {i : Nat} {id : Text}, (naming options nodes).nodes[i]? = some id →
      ((drawNodes nodes).map DrawnNode.id).getD i [] = id := by
    intro i id h
    rw [map_id_drawNodes options, List.getD_eq_getElem?_getD, h, Option.getD_some]
  -- an arrow with these ends is drawn, and it has the same kind
  suffices hdrawn : ∃ b ∈ artifactArrows (drawNodes nodes) (Graph.ofNodes nodes)
      (naming options nodes).artifacts,
      a = b ∨ (a.source == b.source && a.target == b.target) = true by
    obtain ⟨b, hb, heq | hsame⟩ := hdrawn
    · rw [heq]
      exact hb
    · obtain ⟨source, kind, target⟩ := a
      rw [Bool.and_eq_true, beq_iff_eq, beq_iff_eq] at hsame
      obtain ⟨rfl, rfl⟩ := hsame
      rw [kind_eq_of_joins hjoins (joins_of_mem_artifactArrows hb)]
      exact hb
  refine exists_mem_eraseDupsBy ?_
  cases hjoins with
  | @written node id token artifact hnode htoken hartifact =>
    refine List.mem_append_left _ (List.mem_append_left _ (List.mem_flatMap.mpr ?_))
    refine ⟨⟨node, id⟩, (mem_drawNodes options nodes).mpr hnode, List.mem_map_of_mem ?_⟩
    exact List.mem_filterMap.mpr ⟨token, htoken, hfound hartifact⟩
  | @read node id token artifact hnode htoken hartifact =>
    refine List.mem_append_left _ (List.mem_append_right _ (List.mem_flatMap.mpr ?_))
    refine ⟨⟨node, id⟩, (mem_drawNodes options nodes).mpr hnode, ?_⟩
    exact List.mem_map.mpr
      ⟨artifact, List.mem_filterMap.mpr ⟨token, htoken, hfound hartifact⟩, rfl⟩
  | @sourced edge source target hedge hkind hsource htarget =>
    refine List.mem_append_right _ (List.mem_map.mpr ⟨edge, ?_, ?_⟩)
    · exact List.mem_filter.mpr ⟨hedge, beq_iff_eq.mpr hkind⟩
    · rw [hends hsource, hends htarget]

/-- No two arrows are the same. -/
lemma nodup_artifactArrows (drawn : List DrawnNode) (graph : Graph) (ids : List (Text × Text)) :
    (artifactArrows drawn graph ids).Nodup := by
  refine (pairwise_eraseDupsBy _ _).imp fun {a b} hab heq => ?_
  subst heq
  simp at hab

/-! ## The lines that draw arrows -/

/-- A line that refers to nothing draws no arrow. -/
lemma asArrow?_eq_none_of_referred {line : DiagramLine} (h : line.referred = []) :
    line.asArrow? = none := by
  cases line with
  | edge source kind label target => cases h
  | _ => rfl

/-- The lines of a diagram draw the arrows, each once and in their order. -/
lemma filterMap_asArrow?_lines (hshown : options.showArtifacts = true) :
    (ofNodes options nodes).lines.filterMap DiagramLine.asArrow? =
      artifactArrows (drawNodes nodes) (Graph.ofNodes nodes) (naming options nodes).artifacts := by
  have hnone : ∀ {lines : List DiagramLine}, (∀ line ∈ lines, line.asArrow? = none) →
      lines.filterMap DiagramLine.asArrow? = [] := List.filterMap_eq_nil_iff.mpr
  have htitles : (titleLines options).filterMap DiagramLine.asArrow? = [] := by
    refine hnone fun line hline => ?_
    obtain ⟨title, -, rfl⟩ := List.mem_map.mp hline
    rfl
  rw [lines_ofNodes, List.filterMap_cons_none rfl, List.filterMap_append, htitles,
    List.nil_append, bodyLines]
  split
  next hnil =>
    rw [List.isEmpty_iff.mp hnil]
    rfl
  next =>
    have hnodes : (nodeLines options (drawNodes nodes) (groups options (drawNodes nodes))
        ((naming options nodes).groups.map Prod.snd)).filterMap DiagramLine.asArrow? = [] :=
      hnone fun line hline => asArrow?_eq_none_of_referred (referred_eq_nil_of_mem_nodeLines hline)
    have hdefinitions : ∀ draw : Text × Text → DiagramLine,
        (∀ entry, (draw entry).asArrow? = none) →
          ((naming options nodes).artifacts.map draw).filterMap DiagramLine.asArrow? = [] := by
      intro draw hdraw
      refine hnone fun line hline => ?_
      obtain ⟨entry, -, rfl⟩ := List.mem_map.mp hline
      exact hdraw entry
    have hstyles : (if options.styled then styleLines options options.resolvePalette.1
        (drawNodes nodes) ((naming options nodes).artifacts.map Prod.snd) else []).filterMap
          DiagramLine.asArrow? = [] := by
      refine hnone fun line hline => ?_
      split at hline
      · rcases List.mem_append.mp hline with hline | hline
        · obtain ⟨kind, -, rfl⟩ := List.mem_map.mp hline
          rfl
        · obtain ⟨kind, -, rfl⟩ := List.mem_map.mp hline
          rfl
      · exact absurd hline List.not_mem_nil
    have hlinks : (linkLines options (drawNodes nodes)).filterMap DiagramLine.asArrow? = [] := by
      refine hnone fun line hline => ?_
      unfold linkLines at hline
      split at hline
      · exact absurd hline List.not_mem_nil
      · obtain ⟨d, -, rfl⟩ := List.mem_map.mp hline
        rfl
    rw [body_eq, if_pos hshown, artifactLines, List.filterMap_append, List.filterMap_append,
      List.filterMap_append, List.filterMap_append, hnodes, hdefinitions, hstyles, hlinks,
      List.append_nil, List.append_nil, List.nil_append, List.nil_append, List.filterMap_map]
    · exact List.filterMap_some
    · exact fun _ => rfl

/-- Every connection of a diagram with artifacts is an arrow without a label. -/
lemma exists_joins_of_isEdge (hshown : options.showArtifacts = true) {palette : Palette}
    {source target : Text} {kind : EdgeKind} {label : Option Text}
    (h : .edge source kind label target ∈ body options palette nodes) :
    label = none ∧ (naming options nodes).Joins nodes ⟨source, kind, target⟩ := by
  cases refers_of_mem_body h (List.cons_ne_nil _ _) with
  | edge hplain => exact absurd hshown (by rw [hplain]; decide)
  | arrow _ hjoins => exact ⟨rfl, hjoins⟩

/-! ## The text of arrows -/

/-- The text of an arrow, divided behind what it shares with a connection with a label. -/
lemma line_eq (a : Arrow) :
    a.line = "    " ++ a.source ++ " " ++ DiagramLine.arrow a.kind ++ (" " ++ a.target) :=
  List.append_assoc _ _ _

/-- The text of a connection with a label, divided before the label. -/
lemma labelledLine_eq (a : Arrow) (label : Text) :
    a.labelledLine label = "    " ++ a.source ++ " " ++ DiagramLine.arrow a.kind ++
      ("|" ++ (label ++ ("| " ++ a.target))) := by
  unfold Arrow.labelledLine
  rw [List.append_assoc _ _ a.target, List.append_assoc _ label, List.append_assoc _ _ (label ++ _)]

/-- A line that starts like an arrow reads as a connection. -/
lemma ofContent_trimStart_arrow {source : Text} (hsource : isIdentifier source = true) (kind : EdgeKind)
    (rest : Text) :
    LineForm.ofContent (trimStart
      ("    " ++ source ++ " " ++ DiagramLine.arrow kind ++ rest)) = .connection := by
  have hword : source.all isIdentifierChar = true :=
    List.all_eq_true.mpr fun c hc => isIdentifierChar_of_mem hsource hc
  obtain ⟨tail, htail⟩ : ∃ tail, DiagramLine.arrow kind = '-' :: tail := by
    cases kind
    · exact ⟨_, rfl⟩
    · exact ⟨_, rfl⟩
  have hline : "    " ++ source ++ " " ++ DiagramLine.arrow kind ++ rest =
      List.replicate 4 ' ' ++ (source ++ ' ' :: '-' :: (tail ++ rest)) := by
    rw [htail]
    simp [List.replicate]
  rw [hline, trimStart_append_of_blank (isBlankText_replicate 4), trimStart_eq_self]
  · exact LineForm.ofContent_arrow hword _
  · intro c hc
    rw [List.head?_append_of_ne_nil _ (isIdentifier_ne_nil hsource)] at hc
    exact (isTrimmed_of_isIdentifier hsource).head c hc

/-- A line that reads as a connection draws an arrow. -/
lemma exists_joins_of_ofContent (hshown : options.showArtifacts = true) {line : DiagramLine}
    (hmem : line ∈ (ofNodes options nodes).lines)
    (hform : LineForm.ofContent (trimStart line.text) = .connection) :
    ∃ a : Arrow, (naming options nodes).Joins nodes a ∧
      line = .edge a.source a.kind none a.target := by
  rw [lines_ofNodes] at hmem
  rcases List.mem_cons.mp hmem with rfl | hmem
  · exact absurd hform (by cases options.direction <;> decide)
  · rcases List.mem_append.mp hmem with hmem | hmem
    · rw [ofContent_trimStart_of_mem_titleLines hmem] at hform
      cases hform
    · unfold bodyLines at hmem
      split at hmem
      · rw [List.mem_singleton.mp hmem] at hform
        exact absurd hform (by decide)
      · obtain ⟨form, hkind, hspells⟩ := fits_of_mem_body hmem
        rw [hspells.says_trimStart.ofContent_eq] at hform
        subst hform
        cases line with
        | edge source kind label target =>
          obtain ⟨rfl, hjoins⟩ := exists_joins_of_isEdge hshown hmem
          exact ⟨⟨source, kind, target⟩, hjoins, rfl⟩
        | _ => cases hkind

/-- A connection without a label is drawn as the text of its arrow. -/
lemma text_edge {a : Arrow} (htarget : isIdentifier a.target = true) :
    (DiagramLine.edge a.source a.kind none a.target).text = a.line := by
  have htext : (DiagramLine.edge a.source a.kind none a.target).text = trimEnd
      ("    " ++ (a.source ++ " " ++ DiagramLine.arrow a.kind ++ " " ++ a.target)) := rfl
  have hline : "    " ++ (a.source ++ " " ++ DiagramLine.arrow a.kind ++ " " ++ a.target) =
      a.line := by
    unfold Arrow.line
    simp only [List.append_assoc]
  have hends : a.line.getLast? = a.target.getLast? :=
    List.getLast?_append_of_ne_nil _ (isIdentifier_ne_nil htarget)
  rw [htext, hline]
  refine trimEnd_eq_self fun c hc => (isTrimmed_of_isIdentifier htarget).last c ?_
  rw [← hends]
  exact hc

/-- The source of an arrow can be read off its text. -/
lemma source_eq_of_text_eq {source source' : Text} (hsource : isIdentifier source = true)
    (hsource' : isIdentifier source' = true) {kind kind' : EdgeKind} {rest rest' : Text}
    (h : "    " ++ source ++ " " ++ DiagramLine.arrow kind ++ rest =
      "    " ++ source' ++ " " ++ DiagramLine.arrow kind' ++ rest') :
    source = source' ∧ DiagramLine.arrow kind ++ rest = DiagramLine.arrow kind' ++ rest' := by
  have hword : ∀ {id : Text}, isIdentifier id = true → id.all isIdentifierChar = true :=
    fun hid => List.all_eq_true.mpr fun c hc => isIdentifierChar_of_mem hid hc
  have hbody : source ++ ' ' :: (DiagramLine.arrow kind ++ rest) =
      source' ++ ' ' :: (DiagramLine.arrow kind' ++ rest') := by
    simpa using h
  obtain ⟨htake, hdrop⟩ := LineForm.takeWhile_dropWhile_word (hword hsource) (c := ' ') rfl
    (DiagramLine.arrow kind ++ rest)
  obtain ⟨htake', hdrop'⟩ := LineForm.takeWhile_dropWhile_word (hword hsource') (c := ' ') rfl
    (DiagramLine.arrow kind' ++ rest')
  rw [hbody] at htake hdrop
  exact ⟨htake.symm.trans htake', List.tail_eq_of_cons_eq (hdrop.symm.trans hdrop')⟩

/-- Different arrows between identifiers have different texts. -/
lemma eq_of_line_eq {a b : Arrow} (ha : isIdentifier a.source = true)
    (hb : isIdentifier b.source = true) (h : a.line = b.line) : a = b := by
  obtain ⟨source, kind, target⟩ := a
  obtain ⟨source', kind', target'⟩ := b
  rw [line_eq, line_eq] at h
  obtain ⟨rfl, hrest⟩ := source_eq_of_text_eq ha hb h
  cases kind <;> cases kind' <;> simp_all [DiagramLine.arrow]

/-! ## The lines of a diagram with artifacts -/

/-- A line that starts like an arrow is one that joins something. -/
lemma exists_joins_of_mem_splitOn (hshown : options.showArtifacts = true) {source : Text}
    (hsource : isIdentifier source = true) {kind : EdgeKind} {rest : Text}
    (h : "    " ++ source ++ " " ++ DiagramLine.arrow kind ++ rest ∈
      (ofNodes options nodes).text.splitOn '\n') :
    ∃ a : Arrow, (naming options nodes).Joins nodes a ∧ a.source = source ∧
      DiagramLine.arrow a.kind ++ (" " ++ a.target) = DiagramLine.arrow kind ++ rest := by
  rw [splitOn_text_ofNodes] at h
  obtain ⟨line, hline, htext⟩ := List.mem_map.mp h
  obtain ⟨a, hjoins, rfl⟩ := exists_joins_of_ofContent hshown hline
    (by rw [htext]; exact ofContent_trimStart_arrow hsource kind rest)
  obtain ⟨ha, hb⟩ := hjoins.mem_ends
  rw [text_edge (isIdentifier_of_mem_ids hb), line_eq] at htext
  obtain ⟨heq, hrest⟩ := source_eq_of_text_eq (isIdentifier_of_mem_ids ha) hsource htext
  exact ⟨a, hjoins, heq, hrest⟩

/-- The lines of arrows are those of the arrows that join something. -/
lemma line_mem_splitOn_iff (hshown : options.showArtifacts = true) {a : Arrow}
    (hsource : isIdentifier a.source = true) :
    a.line ∈ (ofNodes options nodes).text.splitOn '\n' ↔
      (naming options nodes).Joins nodes a := by
  constructor
  · intro h
    rw [line_eq] at h
    obtain ⟨b, hjoins, heq, hrest⟩ := exists_joins_of_mem_splitOn hshown hsource h
    have hline : b.line = a.line := by
      rw [line_eq, line_eq, List.append_assoc, heq, hrest, ← List.append_assoc]
    rw [← eq_of_line_eq (heq ▸ hsource) hsource hline]
    exact hjoins
  · intro hjoins
    have hdrawn := mem_artifactArrows_iff.mpr hjoins
    rw [← filterMap_asArrow?_lines hshown] at hdrawn
    obtain ⟨line, hline, harrow⟩ := List.mem_filterMap.mp hdrawn
    have hedge : line = .edge a.source a.kind none a.target := by
      unfold DiagramLine.asArrow? at harrow
      split at harrow
      next => cases harrow; rfl
      next => cases harrow
    subst hedge
    rw [splitOn_text_ofNodes, ← text_edge (isIdentifier_of_mem_ids hjoins.mem_ends.2)]
    exact List.mem_map_of_mem hline

/-- No connection is drawn twice. -/
lemma count_splitOn_le_one (hshown : options.showArtifacts = true) {line : Text}
    (hspells : LineForm.connection.Spells line) :
    ((ofNodes options nodes).text.splitOn '\n').count line ≤ 1 := by
  set arrows := artifactArrows (drawNodes nodes) (Graph.ofNodes nodes)
    (naming options nodes).artifacts with harrows
  have hjoins : ∀ a ∈ arrows, (naming options nodes).Joins nodes a :=
    fun a ha => mem_artifactArrows_iff.mp ha
  have hnodup : (arrows.map Arrow.line).Nodup := by
    refine List.Nodup.map_on (fun a ha b hb heq => ?_) (nodup_artifactArrows _ _ _)
    exact eq_of_line_eq (isIdentifier_of_mem_ids (hjoins a ha).mem_ends.1)
      (isIdentifier_of_mem_ids (hjoins b hb).mem_ends.1) heq
  -- a line with this text draws an arrow with this text
  have hdrawn : ∀ drawn ∈ (ofNodes options nodes).lines, (drawn.text == line) = true →
      ((drawn.asArrow?.map fun a => a.line == line).getD false) = true := by
    intro drawn hmem htext
    rw [beq_iff_eq] at htext
    obtain ⟨a, ha, rfl⟩ := exists_joins_of_ofContent hshown hmem
      (by rw [htext]; exact hspells.says_trimStart.ofContent_eq)
    rw [text_edge (isIdentifier_of_mem_ids ha.mem_ends.2)] at htext
    simp [DiagramLine.asArrow?, htext]
  rw [splitOn_text_ofNodes]
  calc ((ofNodes options nodes).lines.map DiagramLine.text).count line
    _ = (ofNodes options nodes).lines.countP fun drawn => drawn.text == line :=
      List.countP_map
    _ ≤ (ofNodes options nodes).lines.countP fun drawn =>
          (drawn.asArrow?.map fun a => a.line == line).getD false := List.countP_mono_left hdrawn
    _ = arrows.countP fun a => a.line == line := by
      rw [harrows, ← filterMap_asArrow?_lines hshown, List.countP_filterMap]
    _ = (arrows.map Arrow.line).count line := by
      rw [List.count, List.countP_map]
      rfl
    _ ≤ 1 := List.nodup_iff_count_le_one.mp hnodup line

/-! ## Agreement with the graph -/

/-- No two nodes have the same identifier. -/
lemma position_eq {i j : Nat} {id : Text} (hi : (naming options nodes).nodes[i]? = some id)
    (hj : (naming options nodes).nodes[j]? = some id) : i = j := by
  have hnodup : (naming options nodes).nodes.Nodup := (Ident.nodup_allocate [] _).1
  obtain ⟨hlength, -⟩ := List.getElem?_eq_some_iff.mp hi
  exact (List.getElem?_inj hlength hnodup).mp (hi.trans hj.symm)

/-- A node and an identifier stand together when they have the same position. -/
lemma mem_zip_of_getElem? {i : Nat} {node : Node} {id : Text} (hnode : nodes[i]? = some node)
    (hid : (naming options nodes).nodes[i]? = some id) :
    (node, id) ∈ nodes.zip (naming options nodes).nodes :=
  List.mem_of_getElem? (List.getElem?_zip_eq_some.mpr ⟨hnode, hid⟩)

/-- The position of a node can be told from its identifier. -/
lemma getElem?_of_mem_zip {i : Nat} {node : Node} {id : Text}
    (hmem : (node, id) ∈ nodes.zip (naming options nodes).nodes)
    (hid : (naming options nodes).nodes[i]? = some id) : nodes[i]? = some node := by
  obtain ⟨k, hk⟩ := List.mem_iff_getElem?.mp hmem
  obtain ⟨hnode, hid'⟩ := List.getElem?_zip_eq_some.mp hk
  rw [position_eq hid hid']
  exact hnode

/-- One node leads to another along a token exactly where both are joined to the artifact
of this token. -/
lemma mem_edges_data_iff_joins (hshown : options.showArtifacts = true) {i j : Nat}
    {source target token : Text} (hother : i ≠ j)
    (hsource : (naming options nodes).nodes[i]? = some source)
    (htarget : (naming options nodes).nodes[j]? = some target) :
    (⟨i, j, token, .data⟩ : Edge) ∈ (Graph.ofNodes nodes).edges ↔
      ∃ artifact, (token, artifact) ∈ (naming options nodes).artifacts ∧
        (naming options nodes).Joins nodes ⟨source, .data, artifact⟩ ∧
        (naming options nodes).Joins nodes ⟨artifact, .data, target⟩ := by
  have hids : ((naming options nodes).artifacts.map Prod.snd).Nodup :=
    (List.nodup_append.mp (nodup_ids_naming options nodes)).2.1
  have htokenOf : ∀ {token token' artifact : Text},
      (token, artifact) ∈ (naming options nodes).artifacts →
        (token', artifact) ∈ (naming options nodes).artifacts → token' = token := by
    intro token token' artifact h h'
    exact congrArg Prod.fst (List.inj_on_of_nodup_map hids h' h rfl)
  rw [Graph.mem_edges_data_iff]
  constructor
  · rintro ⟨-, writer, reader, hwriter, hreader, hwritten, hread⟩
    obtain ⟨hne, written, hmem, htrim⟩ := Node.mem_tokens.mp hwritten
    have htoken : token ∈ (naming options nodes).artifacts.map Prod.fst :=
      (mem_map_fst_artifacts_naming options nodes).mpr ⟨hshown, hne, writer,
        List.mem_of_getElem? hwriter, written, List.mem_append_left _ hmem, htrim⟩
    obtain ⟨⟨token, artifact⟩, hartifact, rfl⟩ := List.mem_map.mp htoken
    exact ⟨artifact, hartifact, .written (mem_zip_of_getElem? hwriter hsource) hwritten hartifact,
      .read (mem_zip_of_getElem? hreader htarget) hread hartifact⟩
  · rintro ⟨artifact, hartifact, hwrites, hreads⟩
    have hnotNode : artifact ∉ (naming options nodes).nodes := fun h =>
      not_mem_artifacts_of_mem_nodes h (List.mem_map_of_mem (f := Prod.snd) hartifact)
    cases hwrites with
    | read hnode htoken hartifact' => exact absurd (List.of_mem_zip hnode).2 hnotNode
    | written hwriter hwritten hwrittenArtifact =>
      cases hreads with
      | written hnode htoken hartifact' => exact absurd (List.of_mem_zip hnode).2 hnotNode
      | read hreader hread hreadArtifact =>
        rw [htokenOf hartifact hwrittenArtifact] at hwritten
        rw [htokenOf hartifact hreadArtifact] at hread
        exact ⟨hother, _, _, getElem?_of_mem_zip hwriter hsource,
          getElem?_of_mem_zip hreader htarget, hwritten, hread⟩

/-- Two nodes are joined along a dependency exactly where the graph has one. -/
lemma joins_dependency_iff {i j : Nat} {source target : Text}
    (hsource : (naming options nodes).nodes[i]? = some source)
    (htarget : (naming options nodes).nodes[j]? = some target) :
    (naming options nodes).Joins nodes ⟨source, .dependency, target⟩ ↔
      ∃ token, (⟨i, j, token, .dependency⟩ : Edge) ∈ (Graph.ofNodes nodes).edges := by
  constructor
  · intro h
    cases h with
    | @sourced edge _ _ hedge hkind hsource' htarget' =>
      obtain ⟨k, l, token, kind⟩ := edge
      obtain rfl : kind = .dependency := hkind
      obtain rfl : i = k := position_eq hsource hsource'
      obtain rfl : j = l := position_eq htarget htarget'
      exact ⟨token, hedge⟩
  · rintro ⟨token, hedge⟩
    exact .sourced hedge rfl hsource htarget

/-- Nodes are not joined along data without an artifact. -/
lemma not_joins_data {source target : Text} (hsource : source ∈ (naming options nodes).nodes)
    (htarget : target ∈ (naming options nodes).nodes) :
    ¬(naming options nodes).Joins nodes ⟨source, .data, target⟩ := by
  intro h
  cases h with
  | written hnode htoken hartifact =>
    exact not_mem_artifacts_of_mem_nodes htarget (List.mem_map_of_mem (f := Prod.snd) hartifact)
  | read hnode htoken hartifact =>
    exact not_mem_artifacts_of_mem_nodes hsource (List.mem_map_of_mem (f := Prod.snd) hartifact)

/-- A diagram that shows artifacts agrees with the graph: nodes are connected through the
artifact of a token where the graph has a data edge with this token, they are connected
directly where it has a dependency and only there, and no connection occurs twice. -/
theorem agreesWithGraph_naming {options : DiagramOptions} (hshown : options.showArtifacts = true)
    (nodes : List Node) :
    (naming options nodes).AgreesWithGraph nodes
      ((ofNodes options nodes).text.splitOn '\n') := by
  have hnode : ∀ {id}, id ∈ (naming options nodes).nodes → isIdentifier id = true :=
    fun h => isIdentifier_of_mem_ids (List.mem_append_left _ h)
  have hartifact : ∀ {token id}, (token, id) ∈ (naming options nodes).artifacts →
      isIdentifier id = true := fun h =>
    isIdentifier_of_mem_ids (List.mem_append_right _ (List.mem_map_of_mem (f := Prod.snd) h))
  refine
    { length_nodes := length_nodes_naming options nodes
      data := fun {i j source target} token hother hsource htarget => ?_
      dependency := fun {i j source target} hsource htarget => ?_
      indirect := fun source hsource target htarget => ⟨fun hmem => ?_, fun label hmem => ?_⟩
      distinct := fun line hspells => count_splitOn_le_one hshown hspells }
  · rw [mem_edges_data_iff_joins hshown hother hsource htarget]
    refine exists_congr fun artifact => and_congr_right fun hmem => ?_
    rw [line_mem_splitOn_iff hshown (hnode (List.mem_of_getElem? hsource)),
      line_mem_splitOn_iff hshown (hartifact hmem)]
  · rw [line_mem_splitOn_iff hshown (hnode (List.mem_of_getElem? hsource))]
    exact joins_dependency_iff hsource htarget
  · exact not_joins_data hsource htarget ((line_mem_splitOn_iff hshown (hnode hsource)).mp hmem)
  · -- behind the arrow a label stands where a diagram with artifacts has a blank
    rw [labelledLine_eq] at hmem
    obtain ⟨⟨_, kind, _⟩, -, -, hrest⟩ := exists_joins_of_mem_splitOn hshown (hnode hsource) hmem
    cases kind <;> simp [DiagramLine.arrow] at hrest

/-- Three nodes, of which the second reads back what it writes and the third writes the
same file twice and sources the first. -/
def looseLists : List Node :=
  [{ fileName := "a.R", id := "a", outputs := ["x.csv", " x.csv "] },
    { fileName := "b.R", id := "b", inputs := ["x.csv"], outputs := ["x.csv", " "] },
    { fileName := "c.R", id := "b", outputs := ["x.csv", "x.csv"], dependencies := ["a.R"] }]

/-- The connections between these nodes. -/
theorem agreesWithGraph_naming_looseLists :
    ({ showArtifacts := true } : DiagramOptions).showArtifacts = true ∧
      (⟨0, 1, "x.csv", .data⟩ : Edge) ∈ (Graph.ofNodes looseLists).edges ∧
      (⟨0, 2, "a.R", .dependency⟩ : Edge) ∈ (Graph.ofNodes looseLists).edges ∧
      (naming { showArtifacts := true } looseLists).AgreesWithGraph looseLists
        ((ofNodes { showArtifacts := true } looseLists).text.splitOn '\n') :=
  ⟨rfl, by decide, by decide, agreesWithGraph_naming rfl looseLists⟩

end Diagram

end ScriptFlow
