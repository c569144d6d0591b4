import ScriptFlow.Proofs.Annotation.Blocks
import ScriptFlow.Proofs.Scan.Detected
import ScriptFlow.Proofs.Scan.Linked
import ScriptFlow.Proofs.Scan.Named
import ScriptFlow.Proofs.Scan.Referenced

/-!
# Scans of the same scripts in different modes

A scan that merges reports the issues of a scan of annotations, whatever the strategy: what
is detected has no identifier of its own, and combining drafts leaves the identifiers that
were given where they are (`issues_table_eq`).

The nodes of a table stand script by script (`nodesByScript`).  Apart from identifiers that
were made, which depend on the rest of the table, the nodes of a script are those of its
drafts (`map_withoutMadeId`).  A script with an annotation or a reference has drafts of its
own in a merging scan, so no node is added to it, and its nodes are combined from those of
the two other scans as the strategy says (`agrees_table_merged`).
-/

namespace ScriptFlow

open Text

namespace Script

/-- A well-formed annotation in a script. -/
def Annotates (script : Script) (found : Annotation) : Prop :=
  .ok found ∈ Annotations.ofLines (.ofLanguage script.language) script.lines

/-- The code of a script refers to some file. -/
def RefersToFile (script : Script) : Prop :=
  ∃ kind path, script.Finds kind path

/-- A script is found to refer to no file if no rule finds a path in it. -/
lemma isEmpty_files_iff {script : Script} :
    script.files.isEmpty = true ↔ ¬script.RefersToFile := by
  rw [files, References.ofLines, References.isEmpty_ofList_iff, List.eq_nil_iff_forall_not_mem]
  constructor
  · rintro hnone ⟨kind, path, hfind⟩
    obtain ⟨reference, hmem, -⟩ := Reference.exists_mem_ofLinesFrom_iff.mpr hfind
    exact hnone reference hmem
  · intro hnone reference hmem
    exact hnone ⟨_, _, Reference.exists_mem_ofLinesFrom_iff.mp ⟨reference, hmem, rfl, rfl⟩⟩

end Script

namespace Node

/-! ## Made identifiers left out -/

/-- Whether an annotation of a script on the line of a node gives the node its identifier. -/
def hasGivenId (script : Script) (node : Node) : Bool :=
  (Annotations.ofLines (.ofLanguage script.language) script.lines).any fun reading =>
    match reading with
    | .ok found => node.line == some found.line && (Draft.id? found.properties).isSome
    | .error _ => false

/-- A node of a script without its identifier, if that was made. -/
def withoutMadeId (script : Script) (node : Node) : Node :=
  if node.hasGivenId script then node else { node with id := [] }

lemma hasGivenId_iff {script : Script} {node : Node} :
    node.hasGivenId script = true ↔ ∃ found, script.Annotates found ∧
      node.line = some found.line ∧ (Draft.id? found.properties).isSome = true := by
  rw [hasGivenId, List.any_eq_true]
  constructor
  · rintro ⟨reading, hreading, hgiven⟩
    cases reading with
    | ok found =>
      rw [Bool.and_eq_true, beq_iff_eq] at hgiven
      exact ⟨found, hreading, hgiven⟩
    | error fault => cases hgiven
  · rintro ⟨found, hfound, hline, hid⟩
    refine ⟨.ok found, hfound, ?_⟩
    rw [Bool.and_eq_true, beq_iff_eq]
    exact ⟨hline, hid⟩

/-- Two nodes are equal if their identifiers are and everything else is. -/
lemma eq_of_others {a b : Node} (hothers : { a with id := [] } = { b with id := [] })
    (hid : a.id = b.id) : a = b :=
  calc a = { { a with id := [] } with id := a.id } := rfl
    _ = { { b with id := [] } with id := b.id } := by rw [hothers, hid]
    _ = b := rfl

end Node

namespace NodeSource

/-- A source is the code of a script or an annotation in it. -/
structure IsIn (source : NodeSource) (script : Script) : Prop where
  ref : source.script = script.ref
  annotates : ∀ found ∈ source.found, script.Annotates found

variable {source : NodeSource} {script : Script}

/-- The node of a source has a given identifier if the source gives one: no other annotation
of the script stands on its line. -/
lemma Gives.hasGivenId_eq {node : Node} (h : source.Gives node) (hsource : source.IsIn script) :
    node.hasGivenId script = source.id?.isSome := by
  have hline : node.line = source.found.map Annotation.line := h.line
  rw [Bool.eq_iff_iff, Node.hasGivenId_iff, hline, id?]
  cases hfound : source.found with
  | none => simp
  | some found =>
    have hannotates : script.Annotates found := hsource.annotates found hfound
    rw [Option.map_some, Option.bind_some]
    constructor
    · rintro ⟨other, hother, hsame, hgiven⟩
      have hlines : Annotations.headLine (.ok found) = Annotations.headLine (.ok other) :=
        Option.some.inj hsame
      obtain rfl := Except.ok.inj (Annotations.eq_of_headLine_eq hannotates hother hlines)
      exact hgiven
    · intro hgiven
      exact ⟨found, hannotates, rfl, hgiven⟩

/-- Without a made identifier the node of a draft is that of the draft. -/
lemma Drafts.withoutMadeId_eq {draft : Draft} {node : Node} (h : source.Drafts draft)
    (hsource : source.IsIn script) (hnode : draft.Yields node) :
    node.withoutMadeId script = draft.node := by
  rw [Node.withoutMadeId, (h.gives hnode).hasGivenId_eq hsource]
  cases hid : source.id? with
  | none =>
    have hempty : draft.node.id = [] := by rw [h.id, hid, Option.getD_none]
    rw [Option.isSome_none, if_neg Bool.false_ne_true]
    exact Node.eq_of_others hnode.others hempty.symm
  | some id =>
    have hneeds : draft.needsId = false := by rw [h.needsId, hid, Option.isNone_some]
    rw [Option.isSome_some, if_pos rfl]
    exact Node.eq_of_others hnode.others (hnode.id hneeds)

/-- Without made identifiers the nodes of drafts are those of the drafts. -/
lemma map_withoutMadeId_eq {sources : List NodeSource} {drafts : List Draft} {nodes : List Node}
    (hdrafts : List.Forall₂ Drafts sources drafts) (hnodes : List.Forall₂ Draft.Yields drafts nodes)
    (hsources : ∀ source ∈ sources, source.IsIn script) :
    nodes.map (Node.withoutMadeId script) = drafts.map Draft.node := by
  induction hdrafts generalizing nodes with
  | nil =>
    cases hnodes
    rfl
  | cons hdraft _ ih =>
    cases hnodes with
    | cons hnode hrest =>
      obtain ⟨hsource, hsources⟩ := List.forall_mem_cons.mp hsources
      rw [List.map_cons, List.map_cons, hdraft.withoutMadeId_eq hsource hnode, ih hrest hsources]

end NodeSource

namespace Scan

/-- What a scan finds in a script is annotated there. -/
lemma annotates_of_mem_annotations {options : ScanOptions} {script : Script} {found : Annotation}
    (h : found ∈ annotations options script) : script.Annotates found := by
  have hreading : .ok found ∈ readings options script := mem_annotations.mp h
  unfold readings at hreading
  split at hreading
  · exact absurd hreading List.not_mem_nil
  · exact hreading

/-- The sources of a script are its code and annotations in it. -/
lemma IsSourceBlock.isIn {options : ScanOptions} {script : Script} {block : List NodeSource}
    (h : IsSourceBlock options script block) {source : NodeSource} (hsource : source ∈ block) :
    source.IsIn script := by
  obtain ⟨href, hfound⟩ := h.of_mem hsource
  exact ⟨href, fun found hmem => annotates_of_mem_annotations (hfound found hmem)⟩

/-- The sources of a table are the code of its scripts and annotations in them. -/
lemma AreSources.exists_isIn {options : ScanOptions} {scripts : List Script}
    {sources : List NodeSource} (h : AreSources options scripts sources) {source : NodeSource}
    (hsource : source ∈ sources) : ∃ script ∈ scripts, source.IsIn script := by
  obtain ⟨script, hscript, href, hfound⟩ := h.exists_script hsource
  exact ⟨script, hscript, href, fun found hmem => annotates_of_mem_annotations (hfound found hmem)⟩

/-! ## The nodes of each script -/

/-- The nodes of the table of some scripts, script by script. -/
def nodesByScript (options : ScanOptions) (scripts : List Script) (prior : List Issue) :
    List (List Node) :=
  ((ofScripts options scripts).map fun scan => scan.drafts.length).splitLengths
    (table options scripts prior).nodes

/-- The nodes of the table for the script at a position. -/
def nodesAt (options : ScanOptions) (scripts : List Script) (prior : List Issue) (i : Nat) :
    List Node :=
  (nodesByScript options scripts prior)[i]?.getD []

section NodesByScript

variable (options : ScanOptions) (scripts : List Script) (prior : List Issue)

/-- The nodes of the scripts in a row are those of the table. -/
lemma flatten_nodesByScript :
    (nodesByScript options scripts prior).flatten = (table options scripts prior).nodes := by
  have hyields : List.Forall₂ Draft.Yields
      ((ofScripts options scripts).map ScriptScan.drafts).flatten
      (table options scripts prior).nodes := forall₂_yields_table options scripts prior
  have hflatten := flatten_splitLengths_of_forall₂ hyields
  rw [List.map_map] at hflatten
  exact hflatten

/-- The nodes of a script come from its drafts. -/
lemma forall₂_nodesByScript :
    List.Forall₂ (fun script block => List.Forall₂ Draft.Yields
        (withNode (sourcedTokens (scripts.map (ofScript options))) (ofScript options script)).drafts
        block)
      scripts (nodesByScript options scripts prior) := by
  have hyields : List.Forall₂ Draft.Yields
      ((ofScripts options scripts).map ScriptScan.drafts).flatten
      (table options scripts prior).nodes := forall₂_yields_table options scripts prior
  have hblocks := forall₂_splitLengths hyields
  rw [List.map_map, List.forall₂_map_left_iff] at hblocks
  have hscans : List.Forall₂ (fun scan block => List.Forall₂ Draft.Yields scan.drafts block)
      (ofScripts options scripts) (nodesByScript options scripts prior) := hblocks
  rw [ofScripts_eq_map, List.forall₂_map_left_iff] at hscans
  exact hscans

/-- Without made identifiers the nodes of a script are those of its drafts. -/
theorem map_withoutMadeId {i : Nat} {script : Script} (hscript : scripts[i]? = some script) :
    (nodesAt options scripts prior i).map (Node.withoutMadeId script) =
      (withNode (sourcedTokens (scripts.map (ofScript options)))
        (ofScript options script)).drafts.map Draft.node := by
  obtain ⟨block, hblock, hyields⟩ :=
    exists_getElem?_of_forall₂ (forall₂_nodesByScript options scripts prior) hscript
  obtain ⟨-, sources, hsources, hdrafts⟩ :=
    (comesFrom_ofScript options script).withNode (sourcedTokens (scripts.map (ofScript options)))
  rw [nodesAt, hblock, Option.getD_some]
  exact NodeSource.map_withoutMadeId_eq hdrafts hyields fun source => hsources.isIn

end NodesByScript

/-- The nodes of a table divided by the scripts that they are in. -/
structure DividesNodes (scripts : List Script) (nodes : List Node) (blocks : List (List Node)) :
    Prop where
  flatten : blocks.flatten = nodes
  isIn : List.Forall₂ (fun script block => ∀ node ∈ block, node.IsIn script.ref) scripts blocks

lemma dividesNodes_nodesByScript (options : ScanOptions) (scripts : List Script)
    (prior : List Issue) :
    DividesNodes scripts (table options scripts prior).nodes
      (nodesByScript options scripts prior) where
  flatten := flatten_nodesByScript options scripts prior
  isIn := (forall₂_nodesByScript options scripts prior).imp fun _ _ hyields =>
    (isNodeBlock_of_forall₂ hyields).isIn

/-! ## The issues -/

end Scan

namespace Draft

/-- A report depends on the nodes only by the uses of their identifiers. -/
lemma duplicateIssue_eq {earlier earlier' node node' : Node}
    (hearlier : IdUse.ofNode earlier = IdUse.ofNode earlier')
    (hnode : IdUse.ofNode node = IdUse.ofNode node') :
    duplicateIssue earlier node = duplicateIssue earlier' node' := by
  obtain ⟨-, hpath, hline⟩ := IdUse.mk.inj hearlier
  obtain ⟨hid, hpath', hline'⟩ := IdUse.mk.inj hnode
  simp only [duplicateIssue, hpath, hline, hid, hpath', hline']

/-- The reports depend on the nodes only by the uses of their identifiers. -/
lemma duplicatesFrom_eq {firsts firsts' nodes nodes' : List Node}
    (hfirsts : firsts.map IdUse.ofNode = firsts'.map IdUse.ofNode)
    (hnodes : nodes.map IdUse.ofNode = nodes'.map IdUse.ofNode) :
    duplicatesFrom firsts nodes = duplicatesFrom firsts' nodes' := by
  induction nodes generalizing firsts firsts' nodes' with
  | nil =>
    rw [List.map_nil, eq_comm, List.map_eq_nil_iff] at hnodes
    rw [hnodes, duplicatesFrom, duplicatesFrom]
  | cons node rest ih =>
    obtain ⟨node', rest', rfl, hnode, hrest⟩ := List.map_eq_cons_iff.mp hnodes.symm
    have hid : node.id = node'.id := congrArg IdUse.id hnode.symm
    have hfind : (firsts.find? fun first => first.id == node.id).map IdUse.ofNode =
        (firsts'.find? fun first => first.id == node'.id).map IdUse.ofNode := by
      have hmap := congrArg (List.find? fun use => use.id == node.id) hfirsts
      rw [List.find?_map, List.find?_map] at hmap
      rw [← hid]
      exact hmap
    rw [duplicatesFrom, duplicatesFrom]
    cases hfound : firsts.find? fun first => first.id == node.id with
    | none =>
      rw [hfound, Option.map_none, eq_comm, Option.map_eq_none_iff] at hfind
      rw [hfind]
      apply ih
      · rw [List.map_cons, List.map_cons, hfirsts, hnode]
      · exact hrest.symm
    | some earlier =>
      rw [hfound, Option.map_some, eq_comm, Option.map_eq_some_iff] at hfind
      obtain ⟨earlier', hfound', hearlier⟩ := hfind
      rw [hfound']
      have hissue : duplicateIssue earlier node = duplicateIssue earlier' node' :=
        duplicateIssue_eq hearlier.symm hnode.symm
      exact congrArg₂ List.cons hissue (ih hfirsts hrest.symm)

end Draft

namespace Scan

/-- The uses of given identifiers are those in the annotations. -/
lemma idUses_eq (sources : List NodeSource) :
    NodeSource.idUses sources =
      (sources.filterMap fun source => source.found.map (source.script, ·)).filterMap fun found =>
        ((Draft.id? found.2.properties).filter fun id => !id.isEmpty).map fun id =>
          ⟨id, found.1.path, some found.2.line⟩ := by
  rw [NodeSource.idUses, List.filterMap_filterMap]
  refine congrFun (congrArg _ (funext fun source => ?_)) _
  rw [NodeSource.idUse?, NodeSource.id?, NodeSource.line]
  cases source.found <;> rfl

/-- All scans that read the annotations of some scripts report the same issues. -/
theorem issues_table_eq {options options' : ScanOptions} (hmode : options.mode ≠ .detected)
    (hmode' : options'.mode ≠ .detected) (scripts : List Script) (prior : List Issue) :
    (table options scripts prior).issues = (table options' scripts prior).issues := by
  have hreadings : readings options = readings options' := by
    funext script
    rw [readings, readings, if_neg hmode, if_neg hmode']
  have hannotations : annotations options = annotations options' := by
    funext script
    rw [annotations, annotations, hreadings]
  obtain ⟨sources, hsources, hdrafts⟩ := exists_sources_allDrafts options scripts
  obtain ⟨sources', hsources', hdrafts'⟩ := exists_sources_allDrafts options' scripts
  have huses : NodeSource.idUses sources = NodeSource.idUses sources' := by
    rw [idUses_eq, idUses_eq, hsources.filterMap_found, hsources'.filterMap_found, hannotations]
  have hduplicates : Draft.duplicateIssues (allDrafts options scripts) =
      Draft.duplicateIssues (allDrafts options' scripts) := by
    apply Draft.duplicatesFrom_eq rfl
    rw [NodeSource.map_ofNode_givenNodes hdrafts, NodeSource.map_ofNode_givenNodes hdrafts', huses]
  rw [issues_table, issues_table, annotationIssues, annotationIssues, hreadings, hduplicates]

/-! ## Drafts in each mode -/

/-- The drafts of the annotations in a script. -/
def ownDrafts (script : Script) : List Draft :=
  annotatedDrafts script.ref
    (Annotations.ofLines (.ofLanguage script.language) script.lines)

/-- There is a draft for every well-formed annotation. -/
lemma ownDrafts_ne_nil {script : Script} {found : Annotation} (h : script.Annotates found) :
    ownDrafts script ≠ [] := by
  have hmem : Draft.build script.ref found ∈ ownDrafts script :=
    mem_annotatedDrafts.mpr ⟨found, h, rfl⟩
  exact List.ne_nil_of_mem hmem

/-- A merging scan combines the drafts of the annotations with the detected one. -/
lemma drafts_ofScript_merged {options : ScanOptions} (hmode : options.mode = .merged)
    (script : Script) :
    (ofScript options script).drafts =
      Draft.merge options.strategy (ownDrafts script)
        (Draft.detected? script.ref script.files) := by
  simp only [ofScript, drafts, readings, references, hmode, reduceCtorEq, if_false, Script.files,
    ownDrafts]

section NodesAt

variable {options : ScanOptions} {scripts : List Script} {i : Nat} {script : Script}
  (hscript : scripts[i]? = some script) (prior : List Issue)

include hscript

/-- In a scan of annotations the nodes of a script are those of its annotations. -/
lemma nodesAt_annotated (hmode : options.mode = .annotated) :
    (nodesAt options scripts prior i).map (Node.withoutMadeId script) =
      (ownDrafts script).map Draft.node := by
  have htokens := sourcedTokens_of_annotated hmode scripts
  rw [map_withoutMadeId options scripts prior hscript, htokens, withNode_of_not_isSourced rfl,
    drafts_ofScript hmode, ownDrafts]

/-- In a scan of code the node of a script that refers to files is the detected one. -/
lemma nodesAt_detected (hmode : options.mode = .detected) {found : Draft}
    (hfound : Draft.detected? script.ref script.files = some found) :
    (nodesAt options scripts prior i).map (Node.withoutMadeId script) = [found.node] := by
  have hdrafts : (ofScript options script).drafts = [found] := by
    rw [drafts_ofScript_detected hmode, hfound, Option.toList_some]
  have hne : (ofScript options script).drafts ≠ [] := by
    rw [hdrafts]
    exact List.cons_ne_nil _ _
  rw [map_withoutMadeId options scripts prior hscript, withNode_of_drafts_ne_nil _ hne, hdrafts,
    List.map_singleton]

/-- In a merging scan the nodes of a script with drafts of its own are what is combined. -/
lemma nodesAt_merged (hmode : options.mode = .merged)
    (hne : Draft.merge options.strategy (ownDrafts script)
      (Draft.detected? script.ref script.files) ≠ []) :
    (nodesAt options scripts prior i).map (Node.withoutMadeId script) =
      (Draft.merge options.strategy (ownDrafts script)
        (Draft.detected? script.ref script.files)).map Draft.node := by
  have hdrafts := drafts_ofScript_merged hmode script
  rw [← hdrafts] at hne
  rw [map_withoutMadeId options scripts prior hscript, withNode_of_drafts_ne_nil _ hne, hdrafts]

end NodesAt

end Scan

/-! ## Strategies -/

namespace MergeStrategy

/-- How the nodes of a script that a strategy leaves are put together from the annotated and
the detected ones, when it is known whether the script refers to files. -/
def Combines (refersToFile : Prop) (annotated detected merged : List Node) : MergeStrategy → Prop
  | manualPriority => merged = if annotated = [] then detected else annotated
  | union =>
    (refersToFile → merged = annotated ++ detected) ∧ (¬refersToFile → merged = annotated)
  | supplement =>
    (annotated = [] → merged = detected) ∧
      (annotated ≠ [] → merged.length = annotated.length ∧ merged.tail = annotated.tail)

/-- Without a reference every strategy keeps the annotated nodes. -/
lemma combines_self (strategy : MergeStrategy) {refersToFile : Prop} (hnot : ¬refersToFile)
    {annotated : List Node} (hne : annotated ≠ []) (detected : List Node) :
    strategy.Combines refersToFile annotated detected annotated := by
  cases strategy with
  | manualPriority => exact (if_neg hne).symm
  | union => exact ⟨fun h => absurd h hnot, fun _ => rfl⟩
  | supplement => exact ⟨fun h => absurd h hne, fun _ => ⟨rfl, rfl⟩⟩

/-- With a reference the drafts of the annotations are combined with the detected one. -/
lemma combines_merge (strategy : MergeStrategy) {refersToFile : Prop} (hrefers : refersToFile)
    (drafts : List Draft) (found : Draft) :
    strategy.Combines refersToFile (drafts.map Draft.node) [found.node]
      ((Draft.merge strategy drafts (some found)).map Draft.node) := by
  cases drafts with
  | nil =>
    have hmerge : Draft.merge strategy [] (some found) = [found] := rfl
    rw [hmerge, List.map_nil, List.map_singleton]
    cases strategy with
    | manualPriority => exact (if_pos rfl).symm
    | union => exact ⟨fun _ => rfl, fun h => absurd hrefers h⟩
    | supplement => exact ⟨fun _ => rfl, fun h => absurd rfl h⟩
  | cons first rest =>
    have hne : (first :: rest).map Draft.node ≠ [] := List.cons_ne_nil _ _
    cases strategy with
    | manualPriority => exact (if_neg hne).symm
    | union =>
      refine ⟨fun _ => ?_, fun h => absurd hrefers h⟩
      exact List.map_append
    | supplement =>
      refine ⟨fun h => absurd h hne, fun _ => ⟨?_, rfl⟩⟩
      rw [List.length_map, List.length_map]
      rfl

end MergeStrategy

namespace Scan

/-- A merging scan agrees with a scan of annotations and a scan of code of the same scripts.
It reports the same issues as the scan of annotations.  For a script with an annotation or a
reference its nodes are combined as the strategy says from those in the two other scans,
apart from identifiers that were made; a script with a reference has one detected node. -/
theorem agrees_table_merged {annotated detected merged : ScanOptions}
    (hannotated : annotated.mode = .annotated) (hdetected : detected.mode = .detected)
    (hmerged : merged.mode = .merged) (scripts : List Script) (prior : List Issue) :
    (table merged scripts prior).issues = (table annotated scripts prior).issues ∧
    (∀ options, DividesNodes scripts (table options scripts prior).nodes
      (nodesByScript options scripts prior)) ∧
    ∀ i script, scripts[i]? = some script →
      (∃ found, script.Annotates found) ∨ script.RefersToFile →
        (script.RefersToFile → (nodesAt detected scripts prior i).length = 1) ∧
        merged.strategy.Combines script.RefersToFile
          ((nodesAt annotated scripts prior i).map (Node.withoutMadeId script))
          ((nodesAt detected scripts prior i).map (Node.withoutMadeId script))
          ((nodesAt merged scripts prior i).map (Node.withoutMadeId script)) := by
  have hreads : annotated.mode ≠ .detected := by simp [hannotated]
  have hreads' : merged.mode ≠ .detected := by simp [hmerged]
  refine ⟨issues_table_eq hreads' hreads scripts prior,
    fun options => dividesNodes_nodesByScript options scripts prior, ?_⟩
  intro i script hscript hknown
  rw [nodesAt_annotated hscript prior hannotated]
  cases hfound : Draft.detected? script.ref script.files with
  | none =>
    have hnot : ¬script.RefersToFile :=
      Script.isEmpty_files_iff.mp (isEmpty_of_detected?_eq_none hfound)
    obtain ⟨found, hannotates⟩ := hknown.resolve_right hnot
    have hne : ownDrafts script ≠ [] := ownDrafts_ne_nil hannotates
    have hmerge : Draft.merge merged.strategy (ownDrafts script)
        (Draft.detected? script.ref script.files) = ownDrafts script := by
      rw [hfound, Draft.merge]
    have hnodes := nodesAt_merged hscript prior hmerged (by rw [hmerge]; exact hne)
    have hnodesne : (ownDrafts script).map Draft.node ≠ [] := by
      rw [Ne, List.map_eq_nil_iff]
      exact hne
    refine ⟨fun h => absurd h hnot, ?_⟩
    rw [hnodes, hmerge]
    exact merged.strategy.combines_self hnot hnodesne _
  | some found =>
    have hrefers : script.RefersToFile := by
      by_contra hnot
      rw [Draft.detected?, Script.isEmpty_files_iff.mpr hnot, if_pos rfl] at hfound
      cases hfound
    have hne : Draft.merge merged.strategy (ownDrafts script)
        (Draft.detected? script.ref script.files) ≠ [] := by
      rw [hfound]
      exact merge_some_ne_nil merged.strategy _ found
    have hsingle := nodesAt_detected hscript prior hdetected hfound
    refine ⟨fun _ => ?_, ?_⟩
    · have hlength := congrArg List.length hsingle
      rwa [List.length_map] at hlength
    · rw [hsingle, nodesAt_merged hscript prior hmerged hne, hfound]
      exact merged.strategy.combines_merge hrefers _ found

/-- A script with an annotation that reads a file and sources another script. -/
def sourcingMain : Script :=
  ⟨"main.R", .r, ["# put label:'load', input:'raw.csv'", "read.csv('raw.csv')",
    "source('util.R')"]⟩

/-- A script without an annotation that writes a file. -/
def sourcedUtil : Script :=
  ⟨"util.R", .r, ["saveRDS(x, 'x.rds')"]⟩

theorem agrees_table_merged_sourcing :
    let scripts := [sourcingMain, sourcedUtil]
    let merged : ScanOptions := { mode := .merged, strategy := .supplement }
    (∃ found, sourcingMain.Annotates found) ∧ sourcedUtil.RefersToFile ∧
      (table merged scripts []).issues = (table {} scripts []).issues ∧
      (nodesAt merged scripts [] 0).length = (nodesAt {} scripts [] 0).length ∧
      (nodesAt { mode := .detected } scripts [] 1).length = 1 := by
  intro scripts merged
  have hannotates : ∃ found, sourcingMain.Annotates found := by
    refine ⟨⟨1, [⟨"label", "load"⟩, ⟨"input", "raw.csv"⟩]⟩, ?_⟩
    unfold Script.Annotates
    decide
  have hrefers : sourcedUtil.RefersToFile := by
    by_contra hnot
    have hempty := Script.isEmpty_files_iff.mpr hnot
    exact absurd hempty (by decide +kernel)
  have hannotated : ({} : ScanOptions).mode = .annotated := rfl
  have hdetected : ({ mode := .detected } : ScanOptions).mode = .detected := rfl
  have hmerged : merged.mode = .merged := rfl
  obtain ⟨hissues, -, hscripts⟩ :=
    agrees_table_merged hannotated hdetected hmerged scripts []
  obtain ⟨-, -, hsupplement⟩ := hscripts 0 sourcingMain rfl (.inl hannotates)
  obtain ⟨hsingle, -⟩ := hscripts 1 sourcedUtil rfl (.inr hrefers)
  have hne : (nodesAt {} scripts [] 0).map (Node.withoutMadeId sourcingMain) ≠ [] := by
    have hscript : scripts[0]? = some sourcingMain := rfl
    obtain ⟨found, hfound⟩ := hannotates
    rw [nodesAt_annotated hscript [] hannotated, Ne, List.map_eq_nil_iff]
    exact ownDrafts_ne_nil hfound
  have hlength := (hsupplement hne).1
  rw [List.length_map, List.length_map] at hlength
  exact ⟨hannotates, hrefers, hissues, hlength, hsingle hrefers⟩

/-- The annotated node takes over the script that was detected to be sourced, and the script
that is sourced keeps its detected node. -/
example :
    (table { mode := .merged, strategy := .supplement } [sourcingMain, sourcedUtil] []).nodes.map
        (fun node => (node.label, node.inputs, node.dependencies, node.outputs)) =
      [(some ("load" : Text), (["raw.csv"] : List Text), (["util.R"] : List Text),
          (["main.R"] : List Text)),
        (some ("util.R" : Text), [], [], (["x.rds"] : List Text))] := by
  decide +kernel

end Scan

end ScriptFlow
