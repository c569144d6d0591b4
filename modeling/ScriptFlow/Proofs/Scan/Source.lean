import ScriptFlow.Proofs.Results
import ScriptFlow.Proofs.Scan.Ident
import ScriptFlow.Proofs.Scan.Sourced

/-!
# Where the nodes of a table come from

Every node of a table comes from an annotation in a script or from the code of a script
(`NodeSource`).  Merging adds files to a node and naming makes an identifier where none was
given; the rest of a node, its frame, stays what its source says.

The sources of a script are its annotations in order and behind them, at most once, its
code (`IsSourceBlock`).  Combining drafts keeps this for every strategy, and so does
giving a node to a script that others source, since it has none before
(`forall₂_ofScripts`).  The nodes of a table are those of the sources of all scripts, one
for each and in their order (`exists_sources`).
-/

namespace ScriptFlow

open Text

namespace Node

/-- What merging and naming leave of a node: all but its identifier and its files. -/
def frame (node : Node) : Node :=
  { node with id := [], inputs := [], outputs := [], dependencies := [] }

end Node

/-- Where a node comes from: an annotation that was found in a script, or else the code of
the script. -/
structure NodeSource where
  script : ScriptRef
  found : Option Annotation
  deriving DecidableEq, Repr

namespace NodeSource

/-- The identifier that an annotation gives, blank or not. -/
def id? (source : NodeSource) : Option Text :=
  source.found.bind fun found => Draft.id? found.properties

/-- The line that a node stands on. -/
def line (source : NodeSource) : Option Nat :=
  source.found.map Annotation.line

/-- The frame of the nodes of a source: the columns that its annotation fills, or the
standard values for the node of a script. -/
def frame (source : NodeSource) : Node where
  fileName := source.script.fileName
  filePath := source.script.path
  fileType := source.script.language.tag
  label := source.found.elim (some source.script.fileName) fun found => Draft.label found.properties
  kind := source.found.elim .process fun found => Draft.kind found.properties
  line := source.line
  origin := source.found.elim .detected fun _ => .annotated
  extra := source.found.elim .empty fun found => Draft.extra found.properties

/-- A draft of a source: it may have any files. -/
structure Drafts (source : NodeSource) (draft : Draft) : Prop where
  frame : draft.node.frame = source.frame
  id : draft.node.id = source.id?.getD []
  needsId : draft.needsId = source.id?.isNone

/-- A node of a source: it may have any files, and any identifier if none was given. -/
structure Gives (source : NodeSource) (node : Node) : Prop where
  frame : node.frame = source.frame
  id : ∀ id, source.id? = some id → node.id = id

/-- A column of the frame of a node is that of its source. -/
lemma Gives.column {source : NodeSource} {node : Node} (h : source.Gives node) {α : Type}
    (column : Node → α) (hcolumn : ∀ node : Node, column node.frame = column node) :
    column node = column source.frame := by
  rw [← hcolumn node, h.frame]

section Columns

variable {source : NodeSource}

lemma Drafts.filePath {draft : Draft} (h : source.Drafts draft) :
    draft.node.filePath = source.script.path :=
  congrArg Node.filePath h.frame

lemma Drafts.line {draft : Draft} (h : source.Drafts draft) : draft.node.line = source.line :=
  congrArg Node.line h.frame

variable {node : Node} (h : source.Gives node)

include h

lemma Gives.filePath : node.filePath = source.script.path :=
  h.column Node.filePath fun _ => rfl

lemma Gives.line : node.line = source.line :=
  h.column Node.line fun _ => rfl

/-- The node of an annotation is annotated and that of the code is detected. -/
lemma Gives.origin : node.origin = source.found.elim .detected fun _ => .annotated :=
  h.column Node.origin fun _ => rfl

/-- The label of a node is what its annotation gives, or else the name of the script. -/
lemma Gives.label : node.label =
    source.found.elim (some source.script.fileName) fun found => Draft.label found.properties :=
  h.column Node.label fun _ => rfl

/-- The extra properties of a node are those of its annotation. -/
lemma Gives.extra :
    node.extra = source.found.elim .empty fun found => Draft.extra found.properties :=
  h.column Node.extra fun _ => rfl

end Columns

end NodeSource

/-! ## Drafts become nodes -/

namespace Draft

/-- A node that a draft becomes: only an identifier that was not given may differ. -/
structure Yields (draft : Draft) (node : Node) : Prop where
  others : { node with id := [] } = { draft.node with id := [] }
  id : draft.needsId = false → node.id = draft.node.id

/-- A column other than the identifier is that of the draft. -/
lemma Yields.column {draft : Draft} {node : Node} (h : draft.Yields node) {α : Type}
    (column : Node → α) (hcolumn : ∀ node : Node, column { node with id := [] } = column node) :
    column node = column draft.node := by
  rw [← hcolumn node, h.others, hcolumn]

/-- Every draft becomes a node, in order. -/
lemma forall₂_nameFrom (taken : List Text) (drafts : List Draft) :
    List.Forall₂ Yields drafts (nameFrom taken drafts) := by
  induction drafts generalizing taken with
  | nil => exact .nil
  | cons draft rest ih =>
    rw [nameFrom]
    split
    next hneeds =>
      refine .cons ⟨rfl, fun hgiven => ?_⟩ (ih _)
      rw [hgiven] at hneeds
      cases hneeds
    next => exact .cons ⟨rfl, fun _ => rfl⟩ (ih _)

end Draft

namespace NodeSource

/-- The node that a draft of a source becomes is a node of this source. -/
lemma Drafts.gives {source : NodeSource} {draft : Draft} {node : Node}
    (hdraft : source.Drafts draft) (hnode : draft.Yields node) : source.Gives node where
  frame := (hnode.column Node.frame fun _ => rfl).trans hdraft.frame
  id id hid := by
    have hneeds : draft.needsId = false := by
      rw [hdraft.needsId, hid]
      rfl
    rw [hnode.id hneeds, hdraft.id, hid]
    rfl

/-- Drafts from sources become nodes from the same sources. -/
lemma forall₂_gives {sources : List NodeSource} {drafts : List Draft} {nodes : List Node}
    (hdrafts : List.Forall₂ Drafts sources drafts)
    (hnodes : List.Forall₂ Draft.Yields drafts nodes) : List.Forall₂ Gives sources nodes :=
  forall₂_comp (fun _ _ _ hdraft hnode => hdraft.gives hnode) hdrafts hnodes

/-- A draft with further files is one of the same source. -/
lemma Drafts.extend {source : NodeSource} {draft : Draft} (h : source.Drafts draft)
    (inputs outputs dependencies : List Text) :
    source.Drafts (draft.extend inputs outputs dependencies) where
  frame := h.frame
  id := h.id
  needsId := h.needsId

/-- The node for the files of a script is of its code. -/
lemma drafts_ofReferences (script : ScriptRef) (files : References) :
    Drafts ⟨script, none⟩ (Draft.ofReferences script files) where
  frame := rfl
  id := rfl
  needsId := rfl

/-- Combining the drafts of some sources with the one of the code adds the code at most
once, behind them. -/
lemma exists_forall₂_merge (script : ScriptRef) {block : List NodeSource} {drafts : List Draft}
    (h : List.Forall₂ Drafts block drafts) (strategy : MergeStrategy) {found? : Option Draft}
    (hfound : ∀ found ∈ found?, Drafts ⟨script, none⟩ found) :
    ∃ k ≤ 1, List.Forall₂ Drafts (block ++ List.replicate k ⟨script, none⟩)
      (Draft.merge strategy drafts found?) := by
  have hnone : List.Forall₂ Drafts (block ++ List.replicate 0 ⟨script, none⟩) drafts := by
    rw [List.replicate_zero, List.append_nil]
    exact h
  cases found? with
  | none => exact ⟨0, by omega, hnone⟩
  | some found =>
    have hcode : List.Forall₂ Drafts [⟨script, none⟩] [found] := .cons (hfound found rfl) .nil
    cases h with
    | nil => exact ⟨1, le_rfl, hcode⟩
    | @cons source first block drafts hfirst hrest =>
      cases strategy with
      | manualPriority => exact ⟨0, by omega, hnone⟩
      | union => exact ⟨1, le_rfl, List.rel_append (.cons hfirst hrest) hcode⟩
      | supplement =>
        refine ⟨0, by omega, ?_⟩
        rw [List.replicate_zero, List.append_nil]
        exact .cons (hfirst.extend _ _ _) hrest

end NodeSource

namespace Scan

/-! ## The sources of a script -/

/-- The annotations that a scan finds in a script. -/
def annotations (options : ScanOptions) (script : Script) : List Annotation :=
  (readings options script).filterMap Except.toOption

lemma mem_annotations {options : ScanOptions} {script : Script} {found : Annotation} :
    found ∈ annotations options script ↔ .ok found ∈ readings options script := by
  rw [annotations, List.mem_filterMap]
  constructor
  · rintro ⟨reading, hreading, hfound⟩
    cases reading with
    | ok other => exact Option.some.inj hfound ▸ hreading
    | error fault => cases hfound
  · exact fun h => ⟨_, h, rfl⟩

/-- The sources of the nodes of a script: its annotations in order, and at most once its
code behind them. -/
def IsSourceBlock (options : ScanOptions) (script : Script) (block : List NodeSource) : Prop :=
  ∃ k ≤ 1, block = (annotations options script).map (fun found => ⟨script.ref, some found⟩) ++
    List.replicate k ⟨script.ref, none⟩

/-- What a script gives, draft by draft from its sources. -/
def ComesFrom (options : ScanOptions) (script : Script) (scan : ScriptScan) : Prop :=
  scan.ref = script.ref ∧
    ∃ block, IsSourceBlock options script block ∧
      List.Forall₂ NodeSource.Drafts block scan.drafts

/-- The drafts of annotations are drafts of these annotations as sources. -/
lemma forall₂_annotatedDrafts (options : ScanOptions) (script : Script) :
    List.Forall₂ NodeSource.Drafts
      ((annotations options script).map fun found => ⟨script.ref, some found⟩)
      (annotatedDrafts script.ref (readings options script)) := by
  have hdrafts : annotatedDrafts script.ref (readings options script) =
      (annotations options script).map (Draft.build script.ref) := by
    rw [annotatedDrafts, annotations, List.map_filterMap]
    refine congrFun (congrArg _ (funext fun reading => ?_)) _
    cases reading <;> rfl
  rw [hdrafts, List.forall₂_map_left_iff, List.forall₂_map_right_iff, List.forall₂_same]
  exact fun found _ => ⟨rfl, rfl, rfl⟩

/-- A detected draft is one of the code of its script. -/
lemma drafts_of_mem_detected? {script : ScriptRef} {files : References} {found : Draft}
    (h : found ∈ Draft.detected? script files) : NodeSource.Drafts ⟨script, none⟩ found := by
  rw [eq_of_mem_detected? h]
  exact NodeSource.drafts_ofReferences script files

/-- In every mode the drafts are those of the annotations combined with what is detected,
where scans of annotations detect nothing and scans of code read no annotations. -/
lemma exists_drafts_eq_merge (options : ScanOptions) (script : Script) :
    ∃ strategy found?,
      (∀ found ∈ found?, found ∈ Draft.detected? script.ref (references options script)) ∧
      (ofScript options script).drafts =
        Draft.merge strategy (annotatedDrafts script.ref (readings options script)) found? := by
  cases hmode : options.mode with
  | annotated =>
    refine ⟨options.strategy, none, fun _ h => (Option.not_mem_none _ h).elim, ?_⟩
    simp only [ofScript, drafts, hmode, Draft.merge]
  | detected =>
    refine ⟨options.strategy, _, fun _ h => h, ?_⟩
    have hreadings : readings options script = [] := if_pos hmode
    simp only [ofScript, drafts, hmode, hreadings, annotatedDrafts, List.filterMap_nil]
    cases Draft.detected? script.ref (references options script) <;> rfl
  | merged =>
    refine ⟨options.strategy, _, fun _ h => h, ?_⟩
    simp only [ofScript, drafts, hmode]

/-- What one script gives comes from its sources. -/
lemma comesFrom_ofScript (options : ScanOptions) (script : Script) :
    ComesFrom options script (ofScript options script) := by
  refine ⟨rfl, ?_⟩
  obtain ⟨strategy, found?, hfound, hdrafts⟩ := exists_drafts_eq_merge options script
  obtain ⟨k, hk, hmerge⟩ := NodeSource.exists_forall₂_merge script.ref
    (forall₂_annotatedDrafts options script) strategy fun found hmem =>
      drafts_of_mem_detected? (hfound found hmem)
  rw [hdrafts]
  exact ⟨_, ⟨k, hk, rfl⟩, hmerge⟩

/-- A script without a node has no source yet, so it can get the one of its code. -/
lemma ComesFrom.withNode {options : ScanOptions} {script : Script} {scan : ScriptScan}
    (h : ComesFrom options script scan) (tokens : List (Text × Text)) :
    ComesFrom options script (withNode tokens scan) := by
  unfold Scan.withNode
  split
  next hsourced =>
    obtain ⟨href, block, ⟨k, -, rfl⟩, hblock⟩ := h
    have hnone := List.isEmpty_iff.mp (Bool.and_eq_true_iff.mp hsourced).1
    rw [hnone, List.forall₂_nil_right_iff, List.append_eq_nil_iff] at hblock
    refine ⟨href, [⟨script.ref, none⟩], ⟨1, le_rfl, ?_⟩, ?_⟩
    · rw [hblock.1]
      rfl
    · rw [href]
      exact .cons (NodeSource.drafts_ofReferences script.ref scan.files) .nil
  next => exact h

/-- What the scripts give, sourced scripts included, comes from their sources. -/
lemma forall₂_ofScripts (options : ScanOptions) (scripts : List Script) :
    List.Forall₂ (ComesFrom options) scripts (ofScripts options scripts) := by
  rw [ofScripts_eq_map, List.forall₂_map_right_iff, List.forall₂_same]
  exact fun script _ => (comesFrom_ofScript options script).withNode _

/-! ## The sources of a table -/

/-- The sources of the nodes of some scripts, script by script. -/
def AreSources (options : ScanOptions) (scripts : List Script) (sources : List NodeSource) :
    Prop :=
  ∃ blocks, sources = blocks.flatten ∧ List.Forall₂ (IsSourceBlock options) scripts blocks

/-- All drafts of a scan. -/
def allDrafts (options : ScanOptions) (scripts : List Script) : List Draft :=
  (ofScripts options scripts).flatMap ScriptScan.drafts

lemma nodes_table_eq (options : ScanOptions) (scripts : List Script) (prior : List Issue) :
    (table options scripts prior).nodes = Draft.toNodes (allDrafts options scripts) := rfl

/-- The drafts of a scan become the nodes of the table, in order. -/
lemma forall₂_yields_table (options : ScanOptions) (scripts : List Script) (prior : List Issue) :
    List.Forall₂ Draft.Yields (allDrafts options scripts) (table options scripts prior).nodes :=
  Draft.forall₂_nameFrom _ _

/-- The drafts of a scan come from the sources of its scripts, in order. -/
lemma exists_sources_allDrafts (options : ScanOptions) (scripts : List Script) :
    ∃ sources, AreSources options scripts sources ∧
      List.Forall₂ NodeSource.Drafts sources (allDrafts options scripts) := by
  have hscans := forall₂_ofScripts options scripts
  rw [allDrafts]
  generalize ofScripts options scripts = scans at hscans ⊢
  induction hscans with
  | nil => exact ⟨[], ⟨[], rfl, .nil⟩, .nil⟩
  | cons hscan _ ih =>
    obtain ⟨_, block, hblock, hdrafts⟩ := hscan
    obtain ⟨_, ⟨blocks, rfl, hblocks⟩, hrest⟩ := ih
    refine ⟨_, ⟨block :: blocks, rfl, .cons hblock hblocks⟩, ?_⟩
    rw [List.flatten_cons, List.flatMap_cons]
    exact List.rel_append hdrafts hrest

/-- The nodes of a table come from the sources of its scripts, in order. -/
theorem exists_sources (options : ScanOptions) (scripts : List Script) (prior : List Issue) :
    ∃ sources, AreSources options scripts sources ∧
      List.Forall₂ NodeSource.Gives sources (table options scripts prior).nodes := by
  obtain ⟨sources, hsources, hdrafts⟩ := exists_sources_allDrafts options scripts
  exact ⟨sources, hsources,
    NodeSource.forall₂_gives hdrafts (forall₂_yields_table options scripts prior)⟩

/-- A source of a script is its code or an annotation in it. -/
lemma IsSourceBlock.of_mem {options : ScanOptions} {script : Script} {block : List NodeSource}
    (h : IsSourceBlock options script block) {source : NodeSource} (hsource : source ∈ block) :
    source.script = script.ref ∧ ∀ found ∈ source.found, found ∈ annotations options script := by
  obtain ⟨k, -, rfl⟩ := h
  rcases List.mem_append.mp hsource with hsource | hsource
  · obtain ⟨found, hfound, rfl⟩ := List.mem_map.mp hsource
    refine ⟨rfl, fun other hother => ?_⟩
    rwa [← Option.some.inj hother]
  · rw [List.eq_of_mem_replicate hsource]
    exact ⟨rfl, fun other hother => (Option.not_mem_none other hother).elim⟩

/-- A source is the code of one of the scripts or an annotation in it. -/
lemma AreSources.exists_script {options : ScanOptions} {scripts : List Script}
    {sources : List NodeSource} (h : AreSources options scripts sources) {source : NodeSource}
    (hsource : source ∈ sources) :
    ∃ script ∈ scripts, source.script = script.ref ∧
      ∀ found ∈ source.found, found ∈ annotations options script := by
  obtain ⟨blocks, rfl, hblocks⟩ := h
  obtain ⟨block, hblock, hmem⟩ := List.mem_flatten.mp hsource
  obtain ⟨script, hscript, hscriptBlock⟩ := exists_mem_left_of_forall₂ hblocks hblock
  exact ⟨script, hscript, hscriptBlock.of_mem hmem⟩

/-- The annotations among the sources of a script are those that a scan finds in it. -/
lemma IsSourceBlock.filterMap_found {options : ScanOptions} {script : Script}
    {block : List NodeSource} (h : IsSourceBlock options script block) :
    block.filterMap (fun source => source.found.map (source.script, ·)) =
      (annotations options script).map (script.ref, ·) := by
  obtain ⟨k, -, rfl⟩ := h
  rw [List.filterMap_append, List.filterMap_map, List.filterMap_replicate_of_none rfl,
    List.append_nil]
  exact congrFun List.filterMap_eq_map _

/-- The annotations among the sources of a table are those that a scan finds in its
scripts, in order. -/
lemma AreSources.filterMap_found {options : ScanOptions} {scripts : List Script}
    {sources : List NodeSource} (h : AreSources options scripts sources) :
    sources.filterMap (fun source => source.found.map (source.script, ·)) =
      scripts.flatMap fun script => (annotations options script).map (script.ref, ·) := by
  obtain ⟨blocks, rfl, hblocks⟩ := h
  induction hblocks with
  | nil => rfl
  | cons hblock _ ih =>
    rw [List.flatten_cons, List.filterMap_append, List.flatMap_cons, hblock.filterMap_found, ih]

/-! ## The issues of a table -/

/-- Giving a node to a script leaves its issues. -/
lemma issues_withNode (tokens : List (Text × Text)) (scan : ScriptScan) :
    (withNode tokens scan).issues = scan.issues := by
  unfold withNode
  split <;> rfl

/-- The issues about the annotations in some scripts, in order. -/
def annotationIssues (options : ScanOptions) (scripts : List Script) : List Issue :=
  scripts.flatMap fun script => (readings options script).flatMap (readingIssues script.path)

lemma mem_annotationIssues {options : ScanOptions} {scripts : List Script} {issue : Issue} :
    issue ∈ annotationIssues options scripts ↔ ∃ script ∈ scripts,
      ∃ reading ∈ readings options script, issue ∈ readingIssues script.path reading := by
  simp only [annotationIssues, List.mem_flatMap]

/-- The issues of a table are those that came up before, those of the annotations in all
scripts, and those about identifiers. -/
lemma issues_table (options : ScanOptions) (scripts : List Script) (prior : List Issue) :
    (table options scripts prior).issues = prior ++ (annotationIssues options scripts ++
      Draft.duplicateIssues (allDrafts options scripts)) := by
  have hscans : (ofScripts options scripts).flatMap ScriptScan.issues =
      annotationIssues options scripts := by
    rw [ofScripts_eq_map, List.flatMap_map]
    exact List.flatMap_congr fun script _ => issues_withNode _ _
  rw [table, collect, hscans]
  exact List.append_assoc _ _ _

end Scan

end ScriptFlow
