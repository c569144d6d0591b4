import ScriptFlow.Proofs.Annotation.NodeProperties
import ScriptFlow.Proofs.Scan.Modes
import ScriptFlow.Proofs.Table.ReadBack

/-!
# The rows of a table

Diagrams, graphs and files rely on what holds of every row (`Node.IsRowOf`): its lists hold
tokens that can name files, its extra properties keep clear of the columns, and its line and
label are those of an annotation or of a script.

The lists of a draft are written in three places, from the values of an annotation, from the
paths in the code and from nothing, and a strategy can add to them afterwards.  What holds
of them in between is that the outputs are tokens that were given or else the name of the
script (`Draft.HasTokens`); that given outputs replace the name keeps this.  The other
columns of a row are those of its source, whatever is merged.
-/

namespace ScriptFlow

open Text

namespace Text

/-- Tokens that can name files: none is empty and none has blanks around it. -/
def AreTokens (tokens : List Text) : Prop :=
  ∀ token ∈ tokens, token ≠ [] ∧ IsTrimmed token

lemma areTokens_nil : AreTokens [] :=
  fun _ htoken => absurd htoken List.not_mem_nil

lemma AreTokens.append {first second : List Text} (hfirst : AreTokens first)
    (hsecond : AreTokens second) : AreTokens (first ++ second) := by
  intro token htoken
  rcases List.mem_append.mp htoken with htoken | htoken
  · exact hfirst token htoken
  · exact hsecond token htoken

lemma AreTokens.mono {tokens fewer : List Text} (h : AreTokens tokens) (hsubset : fewer ⊆ tokens) :
    AreTokens fewer :=
  fun token htoken => h token (hsubset htoken)

end Text

namespace References

/-- The files that a script refers to are tokens. -/
structure HasTokens (files : References) : Prop where
  inputs : AreTokens files.inputs
  outputs : AreTokens files.outputs
  dependencies : AreTokens files.dependencies

lemma hasTokens_empty : HasTokens {} :=
  ⟨areTokens_nil, areTokens_nil, areTokens_nil⟩

/-- The paths that rules find are tokens. -/
lemma hasTokens_ofLines (rules : List ReferenceRule) (lines : List Text) :
    (ofLines rules lines).HasTokens := by
  have htoken : ∀ {kind path}, FindsPath rules lines kind path → path ≠ [] ∧ IsTrimmed path :=
    fun hfind => ⟨hfind.ne_nil, hfind.isTrimmed⟩
  constructor
  · exact fun path hpath => htoken (mem_inputs_iff.mp hpath).1
  · exact fun path hpath => htoken (mem_outputs_iff.mp hpath)
  · exact fun path hpath => htoken (mem_dependencies_iff.mp hpath)

end References

namespace Draft

/-! ## The files of drafts -/

/-- A draft whose files are tokens, but for the name of its script in place of outputs. -/
structure HasTokens (draft : Draft) : Prop where
  inputs : AreTokens draft.node.inputs
  dependencies : AreTokens draft.node.dependencies
  given : draft.outputDefaulted = false → draft.node.outputs ≠ [] ∧ AreTokens draft.node.outputs
  defaulted : draft.outputDefaulted = true → draft.node.outputs = [draft.node.fileName]

lemma HasTokens.givenOutputs {draft : Draft} (h : draft.HasTokens) :
    AreTokens draft.givenOutputs := by
  unfold Draft.givenOutputs
  split
  next => exact areTokens_nil
  next hgiven => exact (h.given (Bool.not_eq_true _ ▸ hgiven)).2

/-- The files of a list property are tokens. -/
lemma areTokens_files (key : Text) (properties : List Property) :
    AreTokens (files key properties) := by
  unfold files
  cases Property.lookup? key properties with
  | none => exact areTokens_nil
  | some value =>
    have hlist : IsCommaList (commaList value) := isCommaList_commaList value
    exact fun token htoken => ⟨hlist.nonempty token htoken, hlist.trimmed token htoken⟩

/-- A draft whose outputs are some tokens, or the name of its script if these are none. -/
lemma hasTokens_of_outputs {draft : Draft} {outputs : List Text}
    (hinputs : AreTokens draft.node.inputs) (hdependencies : AreTokens draft.node.dependencies)
    (houtputs : AreTokens outputs)
    (heq : draft.node.outputs = if outputs.isEmpty then [draft.node.fileName] else outputs)
    (hdefaulted : draft.outputDefaulted = outputs.isEmpty) : draft.HasTokens where
  inputs := hinputs
  dependencies := hdependencies
  given hgiven := by
    rw [hdefaulted] at hgiven
    rw [heq, hgiven, if_neg Bool.false_ne_true]
    exact ⟨List.isEmpty_eq_false_iff.mp hgiven, houtputs⟩
  defaulted hnone := by
    rw [hdefaulted] at hnone
    rw [heq, if_pos hnone]

lemma hasTokens_build (script : ScriptRef) (found : Annotation) :
    (build script found).HasTokens :=
  hasTokens_of_outputs (areTokens_files "input" found.properties) areTokens_nil
    (areTokens_files "output" found.properties) rfl rfl

lemma hasTokens_ofReferences (script : ScriptRef) {files : References} (h : files.HasTokens) :
    (ofReferences script files).HasTokens :=
  hasTokens_of_outputs h.inputs h.dependencies h.outputs rfl rfl

/-- Further tokens leave tokens: they go behind the given outputs and replace a name. -/
lemma HasTokens.extend {draft : Draft} (h : draft.HasTokens)
    {inputs outputs dependencies : List Text} (hinputs : AreTokens inputs)
    (houtputs : AreTokens outputs) (hdependencies : AreTokens dependencies) :
    (draft.extend inputs outputs dependencies).HasTokens where
  inputs := h.inputs.append hinputs
  dependencies := h.dependencies.append hdependencies
  given hgiven := by
    rw [Draft.extend] at hgiven ⊢
    dsimp only at hgiven ⊢
    cases hnone : outputs.isEmpty with
    | true =>
      rw [hnone, Bool.and_true] at hgiven
      rw [if_pos rfl]
      exact h.given hgiven
    | false =>
      -- the name of the script is no given output, so it does not stay beside the new ones
      have hne : outputs ≠ [] := List.isEmpty_eq_false_iff.mp hnone
      rw [if_neg Bool.false_ne_true]
      exact ⟨List.append_ne_nil_of_right_ne_nil _ hne, h.givenOutputs.append houtputs⟩
  defaulted hdefaulted := by
    obtain ⟨hdefaulted, hnone⟩ := Bool.and_eq_true_iff.mp hdefaulted
    rw [Draft.extend]
    dsimp only
    rw [if_pos hnone]
    exact h.defaulted hdefaulted

/-- Every strategy leaves drafts with tokens. -/
lemma hasTokens_of_mem_merge (strategy : MergeStrategy) {drafts : List Draft}
    (hdrafts : ∀ draft ∈ drafts, draft.HasTokens) {found? : Option Draft}
    (hfound : ∀ found ∈ found?, found.HasTokens) :
    ∀ draft ∈ merge strategy drafts found?, draft.HasTokens := by
  cases found? with
  | none => exact hdrafts
  | some found =>
    have hfound : found.HasTokens := hfound found rfl
    cases drafts with
    | nil => exact List.forall_mem_singleton.mpr hfound
    | cons first rest =>
      cases strategy with
      | manualPriority => exact hdrafts
      | union =>
        exact List.forall_mem_append.mpr ⟨hdrafts, List.forall_mem_singleton.mpr hfound⟩
      | supplement =>
        obtain ⟨hfirst, hrest⟩ := List.forall_mem_cons.mp hdrafts
        have hundeclared : ∀ {tokens}, AreTokens tokens →
            AreTokens (undeclared (first :: rest) tokens) :=
          fun htokens => htokens.mono (List.filter_subset_self _)
        refine List.forall_mem_cons.mpr ⟨?_, hrest⟩
        exact hfirst.extend (hundeclared hfound.inputs) (hundeclared hfound.givenOutputs)
          (hundeclared hfound.dependencies)

end Draft

namespace Scan

section HasTokens

variable (options : ScanOptions)

/-- The files that a scan finds a script to refer to are tokens. -/
lemma hasTokens_references (script : Script) : (references options script).HasTokens := by
  unfold references
  split
  · exact References.hasTokens_empty
  · exact References.hasTokens_ofLines _ _

/-- The drafts of one script have tokens. -/
lemma hasTokens_ofScript (script : Script) :
    ∀ draft ∈ (ofScript options script).drafts, draft.HasTokens := by
  obtain ⟨strategy, found?, hfound, hdrafts⟩ := exists_drafts_eq_merge options script
  rw [hdrafts]
  refine Draft.hasTokens_of_mem_merge strategy (fun draft hdraft => ?_) fun found hmem => ?_
  · obtain ⟨found, -, rfl⟩ := mem_annotatedDrafts.mp hdraft
    exact Draft.hasTokens_build script.ref found
  · rw [eq_of_mem_detected? (hfound found hmem)]
    exact Draft.hasTokens_ofReferences script.ref (hasTokens_references options script)

/-- The draft of a script that others source has tokens. -/
lemma hasTokens_withNode (tokens : List (Text × Text)) (script : Script) :
    ∀ draft ∈ (withNode tokens (ofScript options script)).drafts, draft.HasTokens := by
  unfold withNode
  split
  · exact List.forall_mem_singleton.mpr
      (Draft.hasTokens_ofReferences _ (hasTokens_references options script))
  · exact hasTokens_ofScript options script

/-- All drafts of a scan have tokens. -/
theorem hasTokens_of_mem_allDrafts (scripts : List Script) :
    ∀ draft ∈ allDrafts options scripts, draft.HasTokens := by
  intro draft hdraft
  rw [allDrafts, ofScripts_eq_map, List.flatMap_map] at hdraft
  obtain ⟨script, -, hdraft⟩ := List.mem_flatMap.mp hdraft
  exact hasTokens_withNode options _ script draft hdraft

end HasTokens

end Scan

/-! ## The other columns -/

namespace NodeSource

section Columns

variable {source : NodeSource} {script : Script} {node : Node}

/-- The nodes of annotations stand on lines, and no others. -/
lemma Gives.isSome_line_iff (h : source.Gives node) :
    node.line.isSome = true ↔ node.origin = .annotated := by
  rw [h.line, h.origin, NodeSource.line]
  cases source.found with
  | none => simp
  | some found => simp

/-- The label of an annotated node is trimmed and not empty. -/
lemma Gives.label_of_annotated (h : source.Gives node) (horigin : node.origin = .annotated) :
    ∀ label ∈ node.label, label ≠ [] ∧ IsTrimmed label := by
  intro label hlabel
  rw [h.origin] at horigin
  rw [h.label] at hlabel
  cases hfound : source.found with
  | none =>
    rw [hfound] at horigin
    cases horigin
  | some found =>
    rw [hfound] at hlabel
    obtain ⟨hne, value, -, rfl⟩ := Draft.exists_lookup?_of_mem_label hlabel
    exact ⟨hne, isTrimmed_trim value⟩

/-- The label of a detected node is the name of its script. -/
lemma Gives.label_of_detected (h : source.Gives node) (horigin : node.origin = .detected) :
    node.label = some node.fileName := by
  rw [h.origin] at horigin
  cases hfound : source.found with
  | none => rw [h.label, hfound, Option.elim_none, h.isIn.fileName]
  | some found =>
    rw [hfound] at horigin
    cases horigin

/-- The extra properties of a node have identifiers for keys and are called like no column. -/
lemma Gives.isIdentifier_extra (h : source.Gives node) (hsource : source.IsIn script) :
    ∀ e ∈ node.extra.toList, isIdentifier e.1 = true ∧ e.1 ∉ Node.columns := by
  intro e he
  rw [h.extra] at he
  cases hfound : source.found with
  | none =>
    rw [hfound] at he
    exact absurd he List.not_mem_nil
  | some found =>
    rw [hfound] at he
    obtain ⟨-, p, hp, hkey, -⟩ := Draft.mem_of_mem_extra he
    obtain ⟨body, hbody⟩ := Annotations.exists_parse_of_mem_ofLines (hsource.annotates found hfound)
    exact ⟨hkey ▸ Property.isIdentifier_of_parse hbody p hp,
      Scan.not_mem_columns_of_mem_extra he⟩

end Columns

end NodeSource

/-! ## Rows -/

/-- An annotation that spells a blank identifier. -/
def Annotation.SpellsBlankId (found : Annotation) : Prop :=
  ∃ value, Property.lookup? "id" found.properties = some value ∧ IsBlankText value

/-- A row of the table of some scripts. -/
structure Node.IsRowOf (scripts : List Script) (node : Node) : Prop where
  inputs : AreTokens node.inputs
  dependencies : AreTokens node.dependencies
  outputs_ne_nil : node.outputs ≠ []
  outputs : AreTokens node.outputs ∨ node.outputs = [node.fileName]
  extra : ∀ e ∈ node.extra.toList, isIdentifier e.1 = true ∧ e.1 ∉ Node.columns
  line : node.line.isSome = true ↔ node.origin = .annotated
  annotatedLabel : node.origin = .annotated → ∀ label ∈ node.label, label ≠ [] ∧ IsTrimmed label
  detectedLabel : node.origin = .detected → node.label = some node.fileName
  /-- Only an annotation on the line of the row can leave it without an identifier. -/
  id : node.id = [] → ∃ script ∈ scripts, node.IsIn script.ref ∧
    ∃ found, script.Annotates found ∧ node.line = some found.line ∧ found.SpellsBlankId

namespace Scan

section Rows

variable (options : ScanOptions) (scripts : List Script) (prior : List Issue)

/-- Every node of a table is that of a source in one of the scripts, and has an identifier
if this gives none. -/
lemma exists_gives_of_mem_table {node : Node} (h : node ∈ (table options scripts prior).nodes) :
    ∃ script ∈ scripts, ∃ source : NodeSource,
      source.IsIn script ∧ source.Gives node ∧ (source.id? = none → node.id ≠ []) := by
  obtain ⟨sources, hsources, hdrafts⟩ := exists_sources_allDrafts options scripts
  have hgives : List.Forall₂ NodeSource.Gives sources (table options scripts prior).nodes :=
    NodeSource.forall₂_gives hdrafts (forall₂_yields_table options scripts prior)
  have hnames : NodeSource.Names _ sources (table options scripts prior).nodes :=
    NodeSource.names_nameFrom hdrafts _
  obtain ⟨i, hi⟩ := List.mem_iff_getElem?.mp h
  obtain ⟨source, hsource, hnode⟩ := exists_getElem?_of_forall₂ hgives.flip hi
  obtain ⟨script, hscript, hisIn⟩ := hsources.exists_isIn (List.mem_of_getElem? hsource)
  refine ⟨script, hscript, source, hisIn, hnode, fun hid => ?_⟩
  exact (hnames.first i source node hsource hi hid).ne_nil source.idBase_ne_nil

/-- A node without an identifier is that of an annotation that spells a blank one. -/
lemma exists_annotates_of_id_eq_nil {script : Script} {source : NodeSource} {node : Node}
    (hsource : source.IsIn script) (hgives : source.Gives node)
    (hmade : source.id? = none → node.id ≠ []) (hid : node.id = []) :
    ∃ found, script.Annotates found ∧ node.line = some found.line ∧ found.SpellsBlankId := by
  obtain ⟨id, hgiven⟩ : ∃ id, source.id? = some id :=
    Option.ne_none_iff_exists'.mp fun hnone => hmade hnone hid
  have hblank : id = [] := (hgives.id id hgiven).symm.trans hid
  obtain ⟨found, hfound, hproperty⟩ := Option.bind_eq_some_iff.mp hgiven
  obtain ⟨value, hvalue, htrim⟩ := Option.map_eq_some_iff.mp hproperty
  refine ⟨found, hsource.annotates found hfound, ?_, value, hvalue, ?_⟩
  · rw [hgives.line, NodeSource.line, hfound, Option.map_some]
  · exact trim_eq_nil_iff.mp (htrim.trans hblank)

/-- Every node of a table is a row, in every mode and for every strategy. -/
theorem isRowOf_of_mem_table :
    ∀ node ∈ (table options scripts prior).nodes, node.IsRowOf scripts := by
  intro node hnode
  obtain ⟨draft, hdraft, hyield⟩ :=
    exists_mem_left_of_forall₂ (forall₂_yields_table options scripts prior) hnode
  have htokens : draft.HasTokens := hasTokens_of_mem_allDrafts options scripts draft hdraft
  have hinputs : node.inputs = draft.node.inputs := hyield.column Node.inputs fun _ => rfl
  have hdependencies : node.dependencies = draft.node.dependencies :=
    hyield.column Node.dependencies fun _ => rfl
  have houtputs : node.outputs = draft.node.outputs := hyield.column Node.outputs fun _ => rfl
  have hfileName : node.fileName = draft.node.fileName := hyield.column Node.fileName fun _ => rfl
  obtain ⟨script, hscript, source, hsource, hgives, hmade⟩ :=
    exists_gives_of_mem_table options scripts prior hnode
  refine
    { inputs := hinputs ▸ htokens.inputs
      dependencies := hdependencies ▸ htokens.dependencies
      outputs_ne_nil := ?_
      outputs := ?_
      extra := hgives.isIdentifier_extra hsource
      line := hgives.isSome_line_iff
      annotatedLabel := hgives.label_of_annotated
      detectedLabel := hgives.label_of_detected
      id := fun hid => ?_ }
  · rw [houtputs]
    cases hdefaulted : draft.outputDefaulted with
    | true => exact htokens.defaulted hdefaulted ▸ List.cons_ne_nil _ _
    | false => exact (htokens.given hdefaulted).1
  · rw [houtputs, hfileName]
    cases hdefaulted : draft.outputDefaulted with
    | true => exact .inr (htokens.defaulted hdefaulted)
    | false => exact .inl (htokens.given hdefaulted).2
  · exact ⟨script, hscript, hsource.ref ▸ hgives.isIn,
      exists_annotates_of_id_eq_nil hsource hgives hmade hid⟩

end Rows

/-- A script with an annotation that spells a blank identifier, and with references. -/
def blankIdScript : Script :=
  ⟨"main.R", .r, ["# put id:' ', label:' load ', step:'1'", "read.csv('raw.csv')",
    "source('util.R')"]⟩

/-- The node of this annotation, with the files of the references. -/
def blankIdNode : Node where
  fileName := "main.R"
  filePath := "main.R"
  fileType := "r"
  label := some "load"
  inputs := ["raw.csv"]
  outputs := ["main.R"]
  line := some 1
  dependencies := ["util.R"]
  extra := KeyMap.ofList [("step", "1")]

theorem isRowOf_of_mem_table_blankId :
    let scripts := [blankIdScript, sourcedUtil]
    blankIdNode ∈ (table { mode := .merged, strategy := .supplement } scripts []).nodes ∧
      blankIdNode.IsRowOf scripts := by
  intro scripts
  have hnode :
      blankIdNode ∈ (table { mode := .merged, strategy := .supplement } scripts []).nodes := by
    decide +kernel
  exact ⟨hnode, isRowOf_of_mem_table _ scripts [] blankIdNode hnode⟩

end Scan

end ScriptFlow
