import ScriptFlow.Proofs.Scan.Named

/-!
# Annotations are accounted for

Each head of an annotation in the scripts of a scan comes to one node or to one issue about
its syntax, whatever the other heads and scripts hold (`Scan.accounts_table`): the annotated
nodes are the well-formed annotations in their order, and the issues about syntax are the
faulty ones in theirs.  Combining drafts, adding nodes for sourced scripts and making
identifiers neither drops nor repeats nor moves an annotated node.

A scan that reads no annotations gives no annotated node and no issue of its own.
-/

namespace ScriptFlow

namespace NodeSource

/-- The place of the annotation that a source is, if it is one. -/
def foundAt? (source : NodeSource) : Option (FilePath × Option Nat) :=
  source.found.map fun found => (source.script.path, some found.line)

/-- The annotated nodes are those whose sources are annotations, at the same places. -/
lemma map_filter_annotated {sources : List NodeSource} {nodes : List Node}
    (h : List.Forall₂ Gives sources nodes) :
    (nodes.filter fun node => node.origin = .annotated).map
        (fun node => (node.filePath, node.line)) = sources.filterMap foundAt? := by
  induction h with
  | nil => rfl
  | @cons source node sources nodes hgives _ ih =>
    rw [List.filterMap_cons, foundAt?, ← ih]
    cases hfound : source.found with
    | none =>
      have horigin : node.origin ≠ .annotated := by
        rw [hgives.origin, hfound]
        decide
      rw [List.filter_cons_of_neg (by simpa using horigin)]
      rfl
    | some found =>
      have horigin : node.origin = .annotated := by
        rw [hgives.origin, hfound]
        rfl
      rw [List.filter_cons_of_pos (by simpa using horigin), List.map_cons, hgives.filePath,
        hgives.line, line, hfound]
      rfl

end NodeSource

namespace Scan

/-! ## The heads of annotations -/

/-- What is read at the heads of annotations, in order, with the script of each. -/
def heads (scripts : List Script) : List (ScriptRef × Except FaultyAnnotation Annotation) :=
  scripts.flatMap fun script =>
    (Annotations.ofLines (CommentMarks.ofLanguage script.language) script.lines).map
      fun reading => (script.ref, reading)

/-- The place of a head whose annotation is well formed. -/
def placeOf? : ScriptRef × Except FaultyAnnotation Annotation → Option (FilePath × Option Nat)
  | (script, .ok found) => some (script.path, some found.line)
  | (_, .error _) => none

/-- The issue about a head whose annotation is faulty. -/
def faultOf? : ScriptRef × Except FaultyAnnotation Annotation → Option Issue
  | (_, .ok _) => none
  | (script, .error fault) =>
    some { kind := .syntaxError, file := script.path, line := some fault.line,
           message := fault.error.message }

/-- Annotated nodes and issues about syntax account for heads of annotations, in order. -/
structure Accounts (heads : List (ScriptRef × Except FaultyAnnotation Annotation))
    (nodes : List Node) (added : List Issue) : Prop where
  /-- The annotated nodes stand where the well-formed annotations do. -/
  annotated : (nodes.filter fun node => node.origin = .annotated).map
    (fun node => (node.filePath, node.line)) = heads.filterMap placeOf?
  /-- The issues about syntax are those of the faulty annotations. -/
  faulty : (added.filter fun issue => issue.kind = .syntaxError) = heads.filterMap faultOf?
  /-- Each head has exactly one of the two. -/
  count : (nodes.filter fun node => node.origin = .annotated).length +
    (added.filter fun issue => issue.kind = .syntaxError).length = heads.length

/-- A head has a place or a fault. -/
lemma length_placeOf?_add_faultOf?
    (heads : List (ScriptRef × Except FaultyAnnotation Annotation)) :
    (heads.filterMap placeOf?).length + (heads.filterMap faultOf?).length = heads.length := by
  induction heads with
  | nil => rfl
  | cons head rest ih =>
    obtain ⟨script, reading⟩ := head
    cases reading with
    | ok found =>
      simp only [List.filterMap_cons, placeOf?, faultOf?, List.length_cons]
      omega
    | error fault =>
      simp only [List.filterMap_cons, placeOf?, faultOf?, List.length_cons]
      omega

section Annotations

variable {options : ScanOptions} (hmode : options.mode ≠ .detected)

include hmode

/-- A scan that reads annotations reads them at all heads. -/
lemma heads_eq (scripts : List Script) :
    heads scripts = scripts.flatMap fun script =>
      (readings options script).map fun reading => (script.ref, reading) := by
  unfold heads
  refine List.flatMap_congr fun script _ => ?_
  rw [readings, if_neg hmode]

/-- The sources that are annotations stand where the well-formed annotations do. -/
lemma AreSources.filterMap_foundAt? {scripts : List Script} {sources : List NodeSource}
    (h : AreSources options scripts sources) :
    sources.filterMap NodeSource.foundAt? = (heads scripts).filterMap placeOf? := by
  have hsources : sources.filterMap NodeSource.foundAt? =
      (sources.filterMap fun source => source.found.map (source.script, ·)).map
        fun found => (found.1.path, some found.2.line) := by
    rw [List.map_filterMap]
    refine congrFun (congrArg _ (funext fun source => ?_)) _
    rw [NodeSource.foundAt?, Option.map_map]
    rfl
  rw [hsources, h.filterMap_found, heads_eq hmode, List.map_flatMap, List.filterMap_flatMap]
  refine List.flatMap_congr fun script _ => ?_
  rw [annotations, List.map_map, List.map_filterMap, List.filterMap_map]
  refine congrFun (congrArg _ (funext fun reading => ?_)) _
  cases reading <;> rfl

end Annotations

/-! ## The issues about syntax -/

/-- An issue about syntax comes from a faulty annotation. -/
lemma filter_readingIssues (script : ScriptRef) (reading : Except FaultyAnnotation Annotation) :
    ((readingIssues script.path reading).filter fun issue => issue.kind = .syntaxError) =
      (faultOf? (script, reading)).toList := by
  cases reading with
  | ok found =>
    refine List.filter_eq_nil_iff.mpr fun issue hissue => ?_
    obtain ⟨warning, -, rfl⟩ := List.mem_map.mp hissue
    exact Bool.false_ne_true
  | error fault => rfl

/-- No issue about identifiers is about syntax. -/
lemma filter_duplicateIssues (drafts : List Draft) :
    ((Draft.duplicateIssues drafts).filter fun issue => issue.kind = .syntaxError) = [] := by
  refine List.filter_eq_nil_iff.mpr fun issue hissue => ?_
  obtain ⟨draft, -, earlier, rfl⟩ := Draft.exists_eq_duplicateIssue hissue
  exact Bool.false_ne_true

/-- The issues about syntax that a scan adds are those of the faulty annotations. -/
lemma filter_syntaxError {options : ScanOptions} (hmode : options.mode ≠ .detected)
    (scripts : List Script) (drafts : List Draft) :
    ((annotationIssues options scripts ++ Draft.duplicateIssues drafts).filter
      fun issue => issue.kind = .syntaxError) = (heads scripts).filterMap faultOf? := by
  rw [List.filter_append, filter_duplicateIssues, List.append_nil, annotationIssues,
    List.filter_flatMap, heads_eq hmode, List.filterMap_flatMap]
  refine List.flatMap_congr fun script _ => ?_
  rw [List.filter_flatMap, List.filterMap_map, List.filterMap_eq_flatMap_toList]
  exact List.flatMap_congr fun reading _ => filter_readingIssues script.ref reading

/-! ## Scans of code only -/

section Detected

variable {options : ScanOptions} (hmode : options.mode = .detected)

include hmode

lemma readings_of_detected (script : Script) : readings options script = [] :=
  if_pos hmode

/-- No source of a scan of code is an annotation. -/
lemma AreSources.found_eq_none {scripts : List Script} {sources : List NodeSource}
    (h : AreSources options scripts sources) {source : NodeSource} (hsource : source ∈ sources) :
    source.found = none := by
  obtain ⟨script, -, -, hfound⟩ := h.exists_script hsource
  rw [Option.eq_none_iff_forall_not_mem]
  intro found hmem
  have hreading := mem_annotations.mp (hfound found hmem)
  rw [readings_of_detected hmode] at hreading
  exact List.not_mem_nil hreading

/-- A scan of code gives no annotated node. -/
lemma origin_of_mem_table {scripts : List Script} {prior : List Issue} {node : Node}
    (hnode : node ∈ (table options scripts prior).nodes) : node.origin = .detected := by
  obtain ⟨sources, hsources, hnodes⟩ := exists_sources options scripts prior
  obtain ⟨source, hsource, hgives⟩ := exists_mem_left_of_forall₂ hnodes hnode
  rw [hgives.origin, hsources.found_eq_none hmode hsource]
  rfl

/-- A scan of code adds no issue. -/
lemma issues_table_of_detected (scripts : List Script) (prior : List Issue) :
    (table options scripts prior).issues = prior := by
  obtain ⟨sources, hsources, hdrafts⟩ := exists_sources_allDrafts options scripts
  have huses : NodeSource.idUses sources = [] := by
    refine List.filterMap_eq_nil_iff.mpr fun source hsource => ?_
    rw [NodeSource.idUse?, NodeSource.id?, hsources.found_eq_none hmode hsource]
    rfl
  have hgiven : Draft.givenNodes (allDrafts options scripts) = [] := by
    rw [← List.map_eq_nil_iff, NodeSource.map_ofNode_givenNodes hdrafts, huses]
  have hreadings : annotationIssues options scripts = [] := by
    refine List.flatMap_eq_nil_iff.mpr fun script _ => ?_
    rw [readings_of_detected hmode, List.flatMap_nil]
  rw [issues_table, hreadings, Draft.duplicateIssues, hgiven, Draft.duplicatesFrom,
    List.nil_append, List.append_nil]

end Detected

/-! ## Tables -/

/-- The annotated nodes of a table and the issues about syntax that its scan adds behind
those from before account for every annotation in its scripts.  A scan of code gives no
annotated node and adds no issue. -/
theorem accounts_table (options : ScanOptions) (scripts : List Script) (prior : List Issue) :
    (options.mode ≠ .detected → ∃ added, (table options scripts prior).issues = prior ++ added ∧
      Accounts (heads scripts) (table options scripts prior).nodes added) ∧
    (options.mode = .detected →
      (∀ node ∈ (table options scripts prior).nodes, node.origin = .detected) ∧
        (table options scripts prior).issues = prior) := by
  refine ⟨fun hmode => ?_, fun hmode => ?_⟩
  · obtain ⟨sources, hsources, hnodes⟩ := exists_sources options scripts prior
    have hannotated := (NodeSource.map_filter_annotated hnodes).trans
      (hsources.filterMap_foundAt? hmode)
    have hfaulty := filter_syntaxError hmode scripts (allDrafts options scripts)
    refine ⟨_, issues_table options scripts prior, hannotated, hfaulty, ?_⟩
    have hlength := congrArg List.length hannotated
    rw [List.length_map] at hlength
    rw [hlength, hfaulty, length_placeOf?_add_faultOf?]
  · exact ⟨fun node hnode => origin_of_mem_table hmode hnode,
      issues_table_of_detected hmode scripts prior⟩

/-- Two scripts with three heads, of which the second is faulty. -/
def faultyScripts : List Script :=
  [⟨"a.R", .r, ["# put label:'first'", "# put label:'open"]⟩,
    ⟨"src/b.sql", .sql, ["/* put id:'' */"]⟩]

theorem accounts_table_faultyScripts :
    (heads faultyScripts).length = 3 ∧
      (∃ added, (table { mode := .merged } faultyScripts []).issues = [] ++ added ∧
        Accounts (heads faultyScripts) (table { mode := .merged } faultyScripts []).nodes added) ∧
      (∀ node ∈ (table { mode := .detected } faultyScripts []).nodes, node.origin = .detected) ∧
        (table { mode := .detected } faultyScripts []).issues = [] := by
  have hmerged : ScanMode.merged ≠ .detected := by decide
  exact ⟨by decide, (accounts_table { mode := .merged } faultyScripts []).1 hmerged,
    (accounts_table { mode := .detected } faultyScripts []).2 rfl⟩

end Scan

end ScriptFlow
