import Mathlib.Data.List.Basic
import ScriptFlow.Scan.Basic

/-!
# Nodes for sourced scripts

A script that others source gets a node if it has none (`withNode`).  Nothing was drafted
for such a script, so it refers to no file in any mode, and its new node sources nothing:
the dependencies of all scripts are the same before and after, and a second pass changes
nothing (`addSourced_ofScripts`).

Scans of annotations leave the pass out, but since annotations source nothing, the pass
would change nothing there (`ofScripts_eq_addSourced`).
-/

namespace ScriptFlow

namespace Scan

/-! ## What is drafted -/

/-- The drafts of annotations are those of the well-formed ones. -/
lemma mem_annotatedDrafts {script : ScriptRef}
    {readings : List (Except FaultyAnnotation Annotation)} {draft : Draft} :
    draft ∈ annotatedDrafts script readings ↔
      ∃ found, .ok found ∈ readings ∧ Draft.build script found = draft := by
  rw [annotatedDrafts, List.mem_filterMap]
  constructor
  · rintro ⟨reading, hreading, heq⟩
    cases reading with
    | ok found => exact ⟨found, hreading, Option.some.inj heq⟩
    | error fault => cases heq
  · rintro ⟨found, hfound, heq⟩
    exact ⟨.ok found, hfound, congrArg some heq⟩

/-- A detected draft is that of the files of its script. -/
lemma eq_of_mem_detected? {script : ScriptRef} {files : References} {found : Draft}
    (h : found ∈ Draft.detected? script files) : found = Draft.ofReferences script files := by
  rw [Draft.detected?] at h
  split at h
  · cases h
  · exact (Option.some.inj h).symm

/-- The combination with a detected draft is never empty. -/
lemma merge_some_ne_nil (strategy : MergeStrategy) (drafts : List Draft) (found : Draft) :
    Draft.merge strategy drafts (some found) ≠ [] := by
  cases drafts with
  | nil => exact List.cons_ne_nil _ _
  | cons first rest => cases strategy <;> exact List.cons_ne_nil _ _

/-- A script that is detected to be no node refers to no file. -/
lemma isEmpty_of_detected?_eq_none {script : ScriptRef} {files : References}
    (h : Draft.detected? script files = none) : files.isEmpty = true := by
  unfold Draft.detected? at h
  split at h
  next hempty => exact hempty
  next => cases h

/-- A script without a draft refers to no file. -/
lemma isEmpty_files_of_drafts_eq_nil {options : ScanOptions} {script : Script}
    (h : (ofScript options script).drafts = []) :
    (ofScript options script).files.isEmpty = true := by
  have hdrafts : drafts options script.ref (readings options script)
      (references options script) = [] := h
  unfold drafts at hdrafts
  split at hdrafts
  next hmode =>
    have hnone : references options script = {} := if_pos hmode
    rw [ofScript, hnone]
    rfl
  next => exact isEmpty_of_detected?_eq_none (Option.toList_eq_nil_iff.mp hdrafts)
  next =>
    cases hfound : Draft.detected? script.ref (references options script) with
    | none => exact isEmpty_of_detected?_eq_none hfound
    | some found =>
      rw [hfound] at hdrafts
      exact absurd hdrafts (merge_some_ne_nil _ _ found)

/-! ## Nodes for sourced scripts -/

section AddSourced

variable {scans : List ScriptScan}

/-- What a scan gives when its script is to have a node. -/
def withNode (tokens : List (Text × Text)) (scan : ScriptScan) : ScriptScan :=
  if scan.drafts.isEmpty && isSourced tokens scan.ref then
    { scan with drafts := [Draft.ofReferences scan.ref scan.files] }
  else scan

lemma addSourced_eq (scans : List ScriptScan) :
    addSourced scans = scans.map (withNode (sourcedTokens scans)) := rfl

/-- A script with drafts of its own gets no further one. -/
lemma withNode_of_drafts_ne_nil (tokens : List (Text × Text)) {scan : ScriptScan}
    (h : scan.drafts ≠ []) : withNode tokens scan = scan := by
  rw [withNode, List.isEmpty_eq_false_iff.mpr h, Bool.false_and, if_neg Bool.false_ne_true]

/-- A script that others do not source gets no further draft. -/
lemma withNode_of_not_isSourced {tokens : List (Text × Text)} {scan : ScriptScan}
    (h : isSourced tokens scan.ref = false) : withNode tokens scan = scan := by
  rw [withNode, h, Bool.and_false, if_neg Bool.false_ne_true]

/-- A script that others source has a node then. -/
lemma drafts_withNode_ne_nil {tokens : List (Text × Text)} (scan : ScriptScan)
    (hsourced : isSourced tokens scan.ref = true) : (withNode tokens scan).drafts ≠ [] := by
  unfold withNode
  split
  · exact List.cons_ne_nil _ _
  next hnot =>
    rw [hsourced, Bool.and_true, List.isEmpty_iff] at hnot
    exact hnot

/-- A script gets a node at most once. -/
lemma withNode_withNode (tokens : List (Text × Text)) (scan : ScriptScan) :
    withNode tokens (withNode tokens scan) = withNode tokens scan := by
  cases hsourced : isSourced tokens scan.ref with
  | false =>
    have hsame : withNode tokens scan = scan := withNode_of_not_isSourced hsourced
    rw [hsame, hsame]
  | true => exact withNode_of_drafts_ne_nil tokens (drafts_withNode_ne_nil scan hsourced)

/-- The node of a script that refers to nothing sources nothing. -/
lemma flatMap_dependencies_withNode (tokens : List (Text × Text)) {scan : ScriptScan}
    (hempty : scan.drafts = [] → scan.files.isEmpty = true) {β : Type} (item : Draft → Text → β) :
    (withNode tokens scan).drafts.flatMap (fun draft => draft.node.dependencies.map (item draft)) =
      scan.drafts.flatMap fun draft => draft.node.dependencies.map (item draft) := by
  unfold withNode
  split
  next hsourced =>
    have hnone := List.isEmpty_iff.mp (Bool.and_eq_true_iff.mp hsourced).1
    have hfiles := hempty hnone
    rw [References.isEmpty, Bool.and_eq_true, List.isEmpty_iff] at hfiles
    rw [hnone, List.flatMap_singleton, Draft.ofReferences, hfiles.2]
    rfl
  next => rfl

/-- Nodes for sourced scripts add no dependency. -/
lemma sourcedTokens_map_withNode (tokens : List (Text × Text))
    (hempty : ∀ scan ∈ scans, scan.drafts = [] → scan.files.isEmpty = true) :
    sourcedTokens (scans.map (withNode tokens)) = sourcedTokens scans := by
  unfold sourcedTokens
  rw [List.flatMap_map]
  refine List.flatMap_congr fun scan hscan => ?_
  exact flatMap_dependencies_withNode tokens (hempty scan hscan)
    fun draft token => (Text.trim token, draft.node.fileType)

/-- One pass is enough: a second one finds no dependency that the first did not know. -/
lemma addSourced_addSourced
    (hempty : ∀ scan ∈ scans, scan.drafts = [] → scan.files.isEmpty = true) :
    addSourced (addSourced scans) = addSourced scans := by
  have htokens : sourcedTokens (addSourced scans) = sourcedTokens scans :=
    sourcedTokens_map_withNode _ hempty
  rw [addSourced_eq (addSourced scans), htokens, addSourced_eq, List.map_map]
  exact List.map_congr_left fun scan _ => withNode_withNode _ scan

end AddSourced

/-! ## Scans in every mode -/

/-- Annotations source nothing. -/
lemma sourcedTokens_of_annotated {options : ScanOptions} (hmode : options.mode = .annotated)
    (scripts : List Script) : sourcedTokens (scripts.map (ofScript options)) = [] := by
  unfold sourcedTokens
  rw [List.flatMap_map, List.flatMap_eq_nil_iff]
  intro script _
  rw [List.flatMap_eq_nil_iff]
  intro draft hdraft
  have hannotated : draft ∈ annotatedDrafts script.ref (readings options script) := by
    simpa only [ofScript, drafts, hmode] using hdraft
  obtain ⟨found, -, rfl⟩ := mem_annotatedDrafts.mp hannotated
  rfl

/-- In every mode scripts that others source get a node; annotations just source none. -/
lemma ofScripts_eq_addSourced (options : ScanOptions) (scripts : List Script) :
    ofScripts options scripts = addSourced (scripts.map (ofScript options)) := by
  unfold ofScripts
  dsimp only
  split
  next hmode =>
    rw [addSourced_eq, sourcedTokens_of_annotated hmode]
    symm
    refine (List.map_congr_left fun scan _ => ?_).trans (List.map_id _)
    exact withNode_of_not_isSourced rfl
  next => rfl

/-- What each script gives, with a node where others source it. -/
lemma ofScripts_eq_map (options : ScanOptions) (scripts : List Script) :
    ofScripts options scripts = scripts.map fun script =>
      withNode (sourcedTokens (scripts.map (ofScript options))) (ofScript options script) := by
  rw [ofScripts_eq_addSourced, addSourced_eq, List.map_map]
  rfl

lemma isEmpty_files_of_mem {options : ScanOptions} {scripts : List Script} {scan : ScriptScan}
    (hscan : scan ∈ scripts.map (ofScript options)) (hnone : scan.drafts = []) :
    scan.files.isEmpty = true := by
  obtain ⟨script, -, rfl⟩ := List.mem_map.mp hscan
  exact isEmpty_files_of_drafts_eq_nil hnone

/-- The dependencies after the pass are those before. -/
lemma sourcedTokens_ofScripts (options : ScanOptions) (scripts : List Script) :
    sourcedTokens (ofScripts options scripts) =
      sourcedTokens (scripts.map (ofScript options)) := by
  rw [ofScripts_eq_addSourced]
  exact sourcedTokens_map_withNode _ fun _ => isEmpty_files_of_mem

/-- No script is left that others source and that has no node. -/
lemma addSourced_ofScripts (options : ScanOptions) (scripts : List Script) :
    addSourced (ofScripts options scripts) = ofScripts options scripts := by
  rw [ofScripts_eq_addSourced]
  exact addSourced_addSourced fun _ => isEmpty_files_of_mem

end Scan

end ScriptFlow
