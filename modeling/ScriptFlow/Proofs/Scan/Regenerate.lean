import ScriptFlow.Proofs.Annotation.NodeProperties
import ScriptFlow.Proofs.Annotation.ReadBack
import ScriptFlow.Proofs.Scan.Ident
import ScriptFlow.Proofs.Scan.Sourced

/-!
# Regenerating a table

The annotations suggested for the nodes of a table, written back into the scripts
that the nodes come from, give the same table again, up to the lines of the nodes.

In a scan of annotations the nodes of the table are those of the first script, then
those of the second and so on (`exists_blocks`).  With distinct paths the nodes with
the path of a script are exactly its own ones (`map_ownNodes`), each of the kind that
an annotation stands for.  What is written for them is read as their properties, and
these build the nodes again without an identifier to make (`map_drafts_regenerated`).
-/

namespace ScriptFlow

open Text

/-! ## Written nodes -/

namespace Node

/-- A node apart from the line on which it was found. -/
def withoutLine (node : Node) : Node :=
  { node with line := none }

/-- The family of the comments in which a node is written. -/
def commentGroup (node : Node) : CommentGroup :=
  ((Language.ofTag? node.fileType).map Language.group).getD .hash

/-- The annotation suggested for a node whose properties have spellings. -/
def spelled (layout : AnnotationLayout) (node : Node) : Suggestion where
  file := node.filePath
  nodeId := node.id
  text := Property.layOut node.commentGroup.mark layout (node.properties.map Property.spelling)

/-- A node is written in the comments of the language of its script. -/
lemma commentGroup_eq {node : Node} {language : Language} (h : node.fileType = language.tag) :
    node.commentGroup = language.group := by
  rw [commentGroup, h, Language.ofTag?_tag, Option.map_some, Option.getD_some]

/-- Suggesting an annotation succeeds if all properties have spellings. -/
lemma suggestion_eq {node : Node} (h : ∀ p ∈ node.properties, p.IsSpellable)
    (layout : AnnotationLayout) : node.suggestion layout = .ok (node.spelled layout) := by
  have hwritten : Property.written node.properties node.commentGroup layout =
      .ok (node.spelled layout).text :=
    Property.written_eq_ok_iff.mpr ⟨node.properties_ne_nil, h, rfl⟩
  have htext : node.suggestedText layout = .ok (node.spelled layout).text := hwritten
  rw [suggestion, htext]
  rfl

/-- A node that a draft of an annotation becomes is of the same kind as the draft's. -/
lemma isAnnotatedIn_of_becomes {script : ScriptRef} (hname : IsPlainName script.fileName)
    (hslash : '/' ∉ script.fileName) {found : Annotation}
    (h : ∀ p ∈ found.properties, p.IsSpellable) {node : Node}
    (hbecomes : Draft.Becomes (Draft.build script found) node) : node.IsAnnotatedIn script := by
  have hbuild := Draft.isAnnotatedIn_build script h
  rcases hbecomes with rfl | ⟨taken, rfl⟩
  · exact hbuild
  · exact { hbuild with
      id := Draft.isPlain_name hname.toIsPlain hslash taken }

end Node

namespace Scan

/-! ## Scans of annotations -/

/-- In a scan of annotations the drafts of a script are those of its annotations. -/
lemma drafts_ofScript {options : ScanOptions} (hmode : options.mode = .annotated)
    (script : Script) :
    (ofScript options script).drafts = annotatedDrafts script.ref
      (Annotations.ofLines (.ofLanguage script.language) script.lines) := by
  simp only [ofScript, drafts, readings, hmode, reduceCtorEq, if_false]

/-- In a scan of annotations no script gets a node because others source it. -/
lemma nodes_table {options : ScanOptions} (hmode : options.mode = .annotated)
    (scripts : List Script) (prior : List Issue) :
    (table options scripts prior).nodes =
      Draft.toNodes (scripts.flatMap fun script => (ofScript options script).drafts) := by
  simp only [table, collect, ofScripts, hmode, if_true, List.flatMap_map]

/-- Every node made of the annotations of a script is of the kind that they stand for. -/
lemma isAnnotatedIn_of_mem_nameFrom {options : ScanOptions} (hmode : options.mode = .annotated)
    {script : Script} (hname : IsPlainName script.ref.fileName)
    (hlines : ∀ line ∈ script.lines, IsOneLine line) {taken : List Text} {node : Node}
    (h : node ∈ Draft.nameFrom taken (ofScript options script).drafts) :
    node.IsAnnotatedIn script.ref := by
  obtain ⟨draft, hdraft, hbecomes⟩ := Draft.exists_becomes_of_mem_nameFrom h
  rw [drafts_ofScript hmode] at hdraft
  obtain ⟨found, hfound, rfl⟩ := mem_annotatedDrafts.mp hdraft
  exact Node.isAnnotatedIn_of_becomes hname (FilePath.not_mem_fileName script.path)
    (Annotations.isSpellable_of_ofLines hlines hfound).2 hbecomes

/-! ## The nodes of each script -/

/-- The nodes in a script. -/
def ownNodes (nodes : List Node) (script : Script) : List Node :=
  nodes.filter fun node => node.filePath == script.path

/-- The nodes of a table come in blocks, one for each script. -/
lemma exists_blocks {options : ScanOptions} (hmode : options.mode = .annotated)
    {scripts : List Script} (hnames : ∀ script ∈ scripts, IsPlainName script.ref.fileName)
    (hlines : ∀ script ∈ scripts, ∀ line ∈ script.lines, IsOneLine line) (taken : List Text) :
    ∃ blocks, Draft.nameFrom taken
        (scripts.flatMap fun script => (ofScript options script).drafts) = blocks.flatten ∧
      List.Forall₂ (fun script block => ∀ node ∈ block, node.IsAnnotatedIn script.ref)
        scripts blocks := by
  induction scripts generalizing taken with
  | nil => exact ⟨[], rfl, .nil⟩
  | cons script rest ih =>
    obtain ⟨hname, hnames⟩ := List.forall_mem_cons.mp hnames
    obtain ⟨hline, hlines⟩ := List.forall_mem_cons.mp hlines
    obtain ⟨later, hlater⟩ := Draft.exists_nameFrom_append taken (ofScript options script).drafts
      (rest.flatMap fun script => (ofScript options script).drafts)
    obtain ⟨blocks, hblocks, hkind⟩ := ih hnames hlines later
    refine ⟨Draft.nameFrom taken (ofScript options script).drafts :: blocks, ?_, ?_⟩
    · rw [List.flatMap_cons, hlater, hblocks, List.flatten_cons]
    · exact .cons (fun node hnode => isAnnotatedIn_of_mem_nameFrom hmode hname hline hnode) hkind

/-- With distinct paths the nodes in a script are its block. -/
lemma map_ownNodes {scripts : List Script} {blocks : List (List Node)}
    (hkind : List.Forall₂ (fun script block => ∀ node ∈ block, node.IsAnnotatedIn script.ref)
      scripts blocks)
    (hpaths : (scripts.map fun script => script.path).Nodup) :
    scripts.map (ownNodes blocks.flatten) = blocks := by
  induction hkind with
  | nil => rfl
  | @cons script block scripts blocks hblock hkind ih =>
    rw [List.map_cons, List.nodup_cons] at hpaths
    obtain ⟨hnot, hpaths⟩ := hpaths
    have hrest := ih hpaths
    have hpath : ∀ node ∈ block, node.filePath = script.path :=
      fun node hnode => (hblock node hnode).filePath
    have hother : ∀ other ∈ scripts, ownNodes block other = [] := by
      intro other hother
      refine List.filter_eq_nil_iff.mpr fun node hnode heq => hnot ?_
      rw [beq_iff_eq, hpath node hnode] at heq
      exact heq ▸ List.mem_map_of_mem hother
    have hown : ownNodes block script = block := by
      refine List.filter_eq_self.mpr fun node hnode => ?_
      rw [hpath node hnode, beq_self_eq_true]
    have hlater : ownNodes blocks.flatten script = [] := by
      refine List.filter_eq_nil_iff.mpr fun node hnode heq => hnot ?_
      rw [← hrest] at hnode
      obtain ⟨nodes, hnodes, hnode⟩ := List.mem_flatten.mp hnode
      obtain ⟨other, hother, rfl⟩ := List.mem_map.mp hnodes
      have hpath : node.filePath = other.path := by
        simpa using (List.mem_filter.mp hnode).2
      rw [← beq_iff_eq.mp heq, hpath]
      exact List.mem_map_of_mem hother
    have happend : ∀ other, ownNodes (block ++ blocks.flatten) other =
        ownNodes block other ++ ownNodes blocks.flatten other :=
      fun other => List.filter_append _ _
    rw [List.flatten_cons, List.map_cons, happend, hown, hlater, List.append_nil]
    refine congrArg _ ((List.map_congr_left fun other hmem => ?_).trans hrest)
    rw [happend, hother other hmem, List.nil_append]

/-- The nodes of a table are those of its scripts, in order, and each is of the kind that
an annotation in its script stands for. -/
lemma flatMap_ownNodes {options : ScanOptions} (hmode : options.mode = .annotated)
    {scripts : List Script} (hpaths : (scripts.map fun script => script.path).Nodup)
    (hnames : ∀ script ∈ scripts, IsPlainName script.ref.fileName)
    (hlines : ∀ script ∈ scripts, ∀ line ∈ script.lines, IsOneLine line) (prior : List Issue) :
    scripts.flatMap (ownNodes (table options scripts prior).nodes) =
        (table options scripts prior).nodes ∧
      ∀ script ∈ scripts, ∀ node ∈ ownNodes (table options scripts prior).nodes script,
        node.IsAnnotatedIn script.ref := by
  rw [nodes_table hmode, Draft.toNodes]
  obtain ⟨blocks, hblocks, hkind⟩ := exists_blocks hmode hnames hlines _
  have hown := map_ownNodes hkind hpaths
  rw [hblocks]
  constructor
  · rw [List.flatMap_def, hown]
  · conv at hkind => rw [← hown]
    rwa [List.forall₂_map_right_iff, List.forall₂_same] at hkind

end Scan

/-! ## Regenerated scripts -/

namespace Script

/-- The script that holds nothing but the annotations suggested for it, one after the
other. -/
def regenerated (suggestions : List Suggestion) (script : Script) : Script :=
  ofContents script.path script.language
    (join ['\n'] ((suggestions.filter fun s => s.file == script.path).map Suggestion.text))

lemma ref_regenerated (suggestions : List Suggestion) (script : Script) :
    (script.regenerated suggestions).ref = script.ref := rfl

end Script

namespace Scan

/-- The annotations suggested for the nodes in a script are those for its own nodes. -/
lemma filter_suggestions (layout : AnnotationLayout) (nodes : List Node) (script : Script) :
    (nodes.map (Node.spelled layout)).filter (fun s => s.file == script.path) =
      (ownNodes nodes script).map (Node.spelled layout) :=
  List.filter_map

/-- Suggesting annotations succeeds for nodes of the kind that annotations stand for. -/
lemma suggestions_eq {scripts : List Script} {nodes : List Node}
    (hnames : ∀ script ∈ scripts, IsPlainName script.ref.fileName)
    (hown : scripts.flatMap (ownNodes nodes) = nodes)
    (hkind : ∀ script ∈ scripts, ∀ node ∈ ownNodes nodes script, node.IsAnnotatedIn script.ref)
    (layout : AnnotationLayout) :
    Node.suggestions layout nodes = .ok (nodes.map (Node.spelled layout)) := by
  refine mapM_eq_ok_map fun node hnode => ?_
  rw [← hown] at hnode
  obtain ⟨script, hscript, hnode⟩ := List.mem_flatMap.mp hnode
  have hannotated := hkind script hscript node hnode
  exact Node.suggestion_eq (hannotated.isSpellable_properties (hnames script hscript)) layout

/-- The drafts of numbered annotations that describe nodes are these nodes again, on
other lines and with their identifiers given. -/
lemma map_build_numbered {script : ScriptRef} (hname : IsPlainName script.fileName)
    (layout : AnnotationLayout) {nodes : List Node}
    (hkind : ∀ node ∈ nodes, node.IsAnnotatedIn script) (line : Nat) :
    (((Annotations.numbered layout line (nodes.map Node.properties)).map
        (Draft.build script)).map fun draft => draft.node.withoutLine) =
        nodes.map Node.withoutLine ∧
      ∀ draft ∈ (Annotations.numbered layout line (nodes.map Node.properties)).map
        (Draft.build script), draft.needsId = false := by
  induction nodes generalizing line with
  | nil => exact ⟨rfl, fun _ h => absurd h List.not_mem_nil⟩
  | cons node rest ih =>
    obtain ⟨hnode, hrest⟩ := List.forall_mem_cons.mp hkind
    obtain ⟨hbuild, hneeds⟩ := hnode.build_properties hname line
    simp only [List.map_cons, Annotations.numbered]
    obtain ⟨hnodes, hgiven⟩ := ih hrest
      (line + (Property.lineTails layout (node.properties.map Property.spelling)).length)
    refine ⟨?_, List.forall_mem_cons.mpr ⟨hneeds, hgiven⟩⟩
    rw [hnodes, hbuild]
    rfl

/-- The drafts of a regenerated script are its own nodes again, on other lines and with
their identifiers given. -/
lemma map_drafts_regenerated {options : ScanOptions} (hmode : options.mode = .annotated)
    {script : Script} (hname : IsPlainName script.ref.fileName) {nodes : List Node}
    (hkind : ∀ node ∈ ownNodes nodes script, node.IsAnnotatedIn script.ref)
    (layout : AnnotationLayout) :
    ((ofScript options (script.regenerated (nodes.map (Node.spelled layout)))).drafts.map
        fun draft => draft.node.withoutLine) = (ownNodes nodes script).map Node.withoutLine ∧
      ∀ draft ∈ (ofScript options
        (script.regenerated (nodes.map (Node.spelled layout)))).drafts,
        draft.needsId = false := by
  have hwritable : Annotations.IsWritable ((ownNodes nodes script).map Node.properties) := by
    intro properties hproperties
    obtain ⟨node, hnode, rfl⟩ := List.mem_map.mp hproperties
    exact ⟨node.properties_ne_nil, (hkind node hnode).isSpellable_properties hname⟩
  have htexts : ((ownNodes nodes script).map (Node.spelled layout)).map Suggestion.text =
      ((ownNodes nodes script).map Node.properties).map fun properties =>
        Property.layOut (CommentMarks.ofLanguage script.language).group.mark layout
          (properties.map Property.spelling) := by
    rw [List.map_map, List.map_map]
    refine List.map_congr_left fun node hnode => ?_
    simp only [Function.comp_apply, Node.spelled,
      Node.commentGroup_eq (hkind node hnode).fileType]
    rfl
  have hread := Annotations.ofLines_join_layOut
    (CommentMarks.readsLines_ofLanguage script.language) hwritable layout
  have hdrafts : (ofScript options
      (script.regenerated (nodes.map (Node.spelled layout)))).drafts =
      (Annotations.numbered layout 1 ((ownNodes nodes script).map Node.properties)).map
        (Draft.build script.ref) := by
    rw [drafts_ofScript hmode, Script.ref_regenerated, Script.regenerated, Script.ofContents,
      filter_suggestions, htexts, hread, annotatedDrafts, List.filterMap_map]
    exact congrFun List.filterMap_eq_map _
  rw [hdrafts]
  exact map_build_numbered hname layout hkind 1

/-- Regenerating a table is a fixed point.  For scripts with distinct paths, lines
without line ends and file names that come back from a list of files, every node of a
scan of annotations has an annotation to suggest; and the scripts that hold these
annotations instead, in the order of the table, have the same nodes in the same order,
up to the lines on which they stand. -/
theorem nodes_regenerated {options options' : ScanOptions} (hmode : options.mode = .annotated)
    (hmode' : options'.mode = .annotated) {scripts : List Script}
    (hpaths : (scripts.map fun script => script.path).Nodup)
    (hlines : ∀ script ∈ scripts, ∀ line ∈ script.lines, IsOneLine line)
    (hnames : ∀ script ∈ scripts, IsPlainName script.ref.fileName)
    (prior prior' : List Issue) (layout : AnnotationLayout) :
    ∃ suggestions,
      Node.suggestions layout (table options scripts prior).nodes = .ok suggestions ∧
      (table options' (scripts.map (Script.regenerated suggestions)) prior').nodes.map
          Node.withoutLine =
        (table options scripts prior).nodes.map Node.withoutLine := by
  obtain ⟨hown, hkind⟩ := flatMap_ownNodes hmode hpaths hnames hlines prior
  generalize (table options scripts prior).nodes = nodes at hown hkind ⊢
  refine ⟨nodes.map (Node.spelled layout), suggestions_eq hnames hown hkind layout, ?_⟩
  have hdrafts : ∀ script ∈ scripts, _ := fun script hscript =>
    map_drafts_regenerated hmode' (hnames script hscript) (hkind script hscript) layout
  have hgiven : ∀ draft ∈ (scripts.map (Script.regenerated
      (nodes.map (Node.spelled layout)))).flatMap fun script => (ofScript options' script).drafts,
      draft.needsId = false := by
    intro draft hdraft
    obtain ⟨other, hother, hdraft⟩ := List.mem_flatMap.mp hdraft
    obtain ⟨script, hscript, rfl⟩ := List.mem_map.mp hother
    exact (hdrafts script hscript).2 draft hdraft
  rw [nodes_table hmode', Draft.toNodes, Draft.nameFrom_of_given hgiven, List.map_map,
    List.map_flatMap, List.flatMap_map]
  calc scripts.flatMap (fun script => (ofScript options'
          (script.regenerated (nodes.map (Node.spelled layout)))).drafts.map
          (Node.withoutLine ∘ Draft.node))
      = scripts.flatMap fun script => (ownNodes nodes script).map Node.withoutLine :=
        List.flatMap_congr fun script hscript => (hdrafts script hscript).1
    _ = (scripts.flatMap (ownNodes nodes)).map Node.withoutLine := (List.map_flatMap ..).symm
    _ = nodes.map Node.withoutLine := by rw [hown]

/-- A script with quotes in a label and no identifier, and one with an annotation that
goes on inside a block comment. -/
def twoScripts : List Script :=
  [⟨"a.R", .r, ["x <- 1", "# put label:'say \"go\"', output:b.csv"]⟩,
    ⟨"src/b.lua", .lua,
      ["--[[", "put|id:\"x\", input:\"b.csv, c\", \\", "note:' n '", "]]"]⟩]

theorem nodes_regenerated_twoScripts :
    (table {} twoScripts []).nodes.length = 2 ∧
      ∃ suggestions,
        Node.suggestions .multiline (table {} twoScripts []).nodes = .ok suggestions ∧
        (table {} (twoScripts.map (Script.regenerated suggestions)) []).nodes.map
            Node.withoutLine =
          (table {} twoScripts []).nodes.map Node.withoutLine :=
  ⟨by decide, nodes_regenerated rfl rfl (by decide) (by decide) (by decide) [] [] .multiline⟩

end Scan

end ScriptFlow
