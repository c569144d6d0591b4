import ScriptFlow.Proofs.Graph
import ScriptFlow.Proofs.Scan.Source

/-!
# References to scripts are linked

A dependency of a node that means one of the scripts leads somewhere: the script has a node
in the table, and the graph connects every node of this file name with the one that sources
it (`Scan.isLinked_table`).

The nodes of a table stand script by script (`Scan.IsNodeBlock`).  A script has the nodes
of its own drafts, or else a single one that was added because others source it, and which
neither reads nor sources anything.  So the references that are to be resolved are known
before any node is added, and one pass over the scripts resolves them all.
-/

namespace ScriptFlow

namespace Node

/-- A token among the dependencies of a node means a script. -/
def Sources (node : Node) (token : Text) (script : ScriptRef) : Prop :=
  namesFile (Text.trim token) node.fileType script.fileName = true

/-- A node of a script. -/
structure IsIn (node : Node) (script : ScriptRef) : Prop where
  filePath : node.filePath = script.path
  fileName : node.fileName = script.fileName
  fileType : node.fileType = script.language.tag

/-- A token that means a script is not blank. -/
lemma Sources.trim_ne_nil {node : Node} {token : Text} {script : ScriptRef}
    (h : node.Sources token script) : Text.trim token ≠ [] := by
  intro hblank
  rw [Sources, hblank] at h
  cases h

end Node

namespace NodeSource

/-- A node of a source is one of the script of the source. -/
lemma Gives.isIn {source : NodeSource} {node : Node} (h : source.Gives node) :
    node.IsIn source.script where
  filePath := h.filePath
  fileName := h.column Node.fileName fun _ => rfl
  fileType := h.column Node.fileType fun _ => rfl

end NodeSource

namespace Scan

/-- The nodes of a script in a table: those of its own drafts, or a single one that was
added where there was none and that neither reads nor sources anything. -/
structure IsNodeBlock (options : ScanOptions) (script : Script) (block : List Node) : Prop where
  isIn : ∀ node ∈ block, node.IsIn script.ref
  drafts : List.Forall₂ Draft.Yields (ofScript options script).drafts block ∨
    (ofScript options script).drafts = [] ∧
      ∃ node, block = [node] ∧ node.inputs = [] ∧ node.dependencies = []

/-- Every reference from a node to a script is linked. -/
structure IsLinked (options : ScanOptions) (scripts : List Script) (nodes : List Node) :
    Prop where
  /-- The nodes stand script by script, and a script that is sourced has some. -/
  blocks : ∃ blocks, nodes = blocks.flatten ∧
    List.Forall₂ (fun script block => IsNodeBlock options script block ∧
      ∀ sourcing ∈ nodes, ∀ token ∈ sourcing.dependencies,
        sourcing.Sources token script.ref → block ≠ []) scripts blocks
  /-- Every other node with the file name of a script that is sourced leads to the node that
  sources it. -/
  edges : ∀ script ∈ scripts, ∀ i j sourced sourcing, i ≠ j →
    nodes[i]? = some sourced → nodes[j]? = some sourcing →
    sourced.fileName = script.ref.fileName →
    ∀ token ∈ sourcing.dependencies, sourcing.Sources token script.ref →
      (⟨i, j, Text.trim token, .dependency⟩ : Edge) ∈ (Graph.ofNodes nodes).edges
  /-- A second pass adds nothing. -/
  closed : addSourced (ofScripts options scripts) = ofScripts options scripts

variable {options : ScanOptions} {scripts : List Script}

/-- The dependencies of the nodes of a table are those that were found in the scripts. -/
lemma mem_sourcedTokens {prior : List Issue} {sourcing : Node}
    (hsourcing : sourcing ∈ (table options scripts prior).nodes) {token : Text}
    (htoken : token ∈ sourcing.dependencies) :
    (Text.trim token, sourcing.fileType) ∈ sourcedTokens (scripts.map (ofScript options)) := by
  have hyields := Draft.forall₂_nameFrom ((Draft.givenNodes (allDrafts options scripts)).map Node.id)
    (allDrafts options scripts)
  obtain ⟨draft, hdraft, hnode⟩ := exists_mem_left_of_forall₂ hyields hsourcing
  obtain ⟨scan, hscan, hdraft⟩ := List.mem_flatMap.mp hdraft
  have hdependencies : sourcing.dependencies = draft.node.dependencies :=
    hnode.column Node.dependencies fun _ => rfl
  have hfileType : sourcing.fileType = draft.node.fileType :=
    hnode.column Node.fileType fun _ => rfl
  rw [← sourcedTokens_ofScripts, hfileType]
  refine List.mem_flatMap.mpr ⟨scan, hscan, List.mem_flatMap.mpr ⟨draft, hdraft, ?_⟩⟩
  exact List.mem_map_of_mem (hdependencies ▸ htoken)

/-- A script that a node sources is among those that get a node. -/
lemma isSourced_of_sources {prior : List Issue} {sourcing : Node}
    (hsourcing : sourcing ∈ (table options scripts prior).nodes) {token : Text}
    (htoken : token ∈ sourcing.dependencies) {script : ScriptRef}
    (hnames : sourcing.Sources token script) :
    isSourced (sourcedTokens (scripts.map (ofScript options))) script = true :=
  List.any_eq_true.mpr ⟨_, mem_sourcedTokens hsourcing htoken, hnames⟩

/-- The drafts of a script, an added one included, become nodes of this script. -/
lemma isNodeBlock_of_forall₂ {script : Script} {tokens : List (Text × Text)} {block : List Node}
    (h : List.Forall₂ Draft.Yields (withNode tokens (ofScript options script)).drafts block) :
    IsNodeBlock options script block where
  isIn node hnode := by
    obtain ⟨-, sources, hsources, hdrafts⟩ :=
      (comesFrom_ofScript options script).withNode tokens
    obtain ⟨source, hsource, hgives⟩ :=
      exists_mem_left_of_forall₂ (NodeSource.forall₂_gives hdrafts h) hnode
    exact (hsources.of_mem hsource).1 ▸ hgives.isIn
  drafts := by
    unfold withNode at h
    split at h
    next hadded =>
      have hnone := List.isEmpty_iff.mp (Bool.and_eq_true_iff.mp hadded).1
      have hfiles := isEmpty_files_of_drafts_eq_nil hnone
      simp only [References.isEmpty, Bool.and_eq_true, List.isEmpty_iff] at hfiles
      obtain ⟨node, nodes, hyields, hnodes, rfl⟩ := List.forall₂_cons_left_iff.mp h
      obtain rfl := List.forall₂_nil_left_iff.mp hnodes
      have hinputs := hyields.column Node.inputs fun _ => rfl
      have hdependencies := hyields.column Node.dependencies fun _ => rfl
      exact .inr ⟨hnone, node, rfl, hinputs.trans hfiles.1.1, hdependencies.trans hfiles.2⟩
    next => exact .inl h

/-- Every reference in a table is linked, and no node that was added to link it holds a
further one. -/
theorem isLinked_table (options : ScanOptions) (scripts : List Script) (prior : List Issue) :
    IsLinked options scripts (table options scripts prior).nodes where
  blocks := by
    have hyields : List.Forall₂ Draft.Yields (allDrafts options scripts)
        (table options scripts prior).nodes := Draft.forall₂_nameFrom _ _
    rw [allDrafts, List.flatMap_def] at hyields
    obtain ⟨blocks, hblocks, hscans⟩ := exists_flatten_of_forall₂ hyields
    rw [List.forall₂_map_left_iff, ofScripts_eq_map, List.forall₂_map_left_iff] at hscans
    refine ⟨blocks, hblocks, hscans.imp fun script block hblock => ?_⟩
    refine ⟨isNodeBlock_of_forall₂ hblock, fun sourcing hsourcing token htoken hnames => ?_⟩
    have hsourced := isSourced_of_sources hsourcing htoken hnames
    rintro rfl
    have hne := drafts_withNode_ne_nil (ofScript options script) hsourced
    exact hne (List.forall₂_nil_right_iff.mp hblock)
  edges script _ i j sourced sourcing hother hsourced hsourcing hname token htoken hnames := by
    rw [Graph.mem_edges_dependency_iff]
    refine ⟨hother, sourced, sourcing, hsourced, hsourcing, ?_, ?_⟩
    · exact Node.mem_tokens.mpr ⟨hnames.trim_ne_nil, token, htoken, rfl⟩
    · rw [Node.Sources, ← hname] at hnames
      rw [Node.provides, hnames, Bool.or_true]
  closed := addSourced_ofScripts options scripts

/-- A script without references gets a node when another one sources it. -/
example :
    let scripts : List Script :=
      [⟨"lib/util.R", .r, ["x <- 1"]⟩, ⟨"main.R", .r, ["source('util.R')"]⟩]
    (Graph.ofNodes (table { mode := .detected } scripts []).nodes).edges =
      [⟨0, 1, "util.R", .dependency⟩] := by
  decide +kernel

end Scan

end ScriptFlow
