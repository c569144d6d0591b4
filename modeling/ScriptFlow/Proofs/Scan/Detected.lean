import ScriptFlow.Proofs.Reference.Paths
import ScriptFlow.Proofs.Scan.Regenerate
import ScriptFlow.Scan.Folder

/-!
# Suggestions for detected nodes

A scan that looks at code only gives a script at most one node, which holds the files
that the rules of its language find (`Node.IsDetectedIn`).  What can keep such a node from
being written are the paths alone: one with a carriage return, or in SQL double and single
quotes among the files that are read (`exists_suggestedText_iff`).

The annotation that is suggested, taken for the contents of the script, describes one
node with the same identifier, label and kind.  A list of files comes back with the
sourced files behind those that are read, as long as none of them holds a comma.
-/

namespace ScriptFlow

open Text

/-- A list of files can stand in quotes when each file is one line and one of the quotes
is in none of them. -/
lemma Text.isQuotable_join_iff {tokens : List Text} :
    IsQuotable (join ", " tokens) ↔
      (∀ token ∈ tokens, IsOneLine token) ∧
        ((∀ token ∈ tokens, '"' ∉ token) ∨ ∀ token ∈ tokens, '\'' ∉ token) := by
  have hjoin : ∀ c, c ∉ (", " : String).toList →
      (c ∉ join ", " tokens ↔ ∀ token ∈ tokens, c ∉ token) := fun _ hc => not_mem_join_iff hc
  rw [isQuotable_iff, isOneLine_iff, hjoin _ (by decide), hjoin _ (by decide),
    hjoin _ (by decide), hjoin _ (by decide)]
  simp only [isOneLine_iff, imp_and, forall_and]

/-- A path with a language has a file name. -/
lemma Language.fileName_ne_nil_of_ofPath? {path : FilePath} {language : Language}
    (h : ofPath? path = some language) : FilePath.fileName path ≠ [] := by
  obtain ⟨name, hname⟩ : ∃ name, Path.fileName? path = some name := by
    cases hname : Path.fileName? path with
    | some name => exact ⟨name, rfl⟩
    | none =>
      rw [ofPath?, Path.extension?, hname] at h
      cases h
  rw [FilePath.fileName, hname]
  exact Text.shown_ne_nil (Path.mem_splitOn_of_fileName? hname).2

namespace Script

/-- The files that the rules of its language find in a script. -/
def files (script : Script) : References :=
  References.ofLines (ReferenceRule.ofLanguage script.language) script.lines

/-- The rules of its language find a path for a kind of references in a script. -/
def Finds (script : Script) (kind : ReferenceKind) (path : Text) : Prop :=
  FindsPath (ReferenceRule.ofLanguage script.language) script.lines kind path

end Script

namespace Node

/-! ## Detected nodes -/

/-- A node of the kind that a script is detected to be. -/
structure IsDetectedIn (script : Script) (node : Node) : Prop extends
    IsDescribable node where
  fileType : node.fileType = script.language.tag
  reads : ∀ file ∈ node.inputs ++ node.dependencies, ∃ kind, script.Finds kind file
  writes : node.outputs = [script.ref.fileName] ∨
    (node.outputs ≠ [] ∧ ∀ file ∈ node.outputs, script.Finds .output file)

/-- The node for the files of a script is of this kind, with any identifier that can be
written. -/
lemma isDetectedIn_ofReferences {script : Script} (hname : IsPlainName script.ref.fileName)
    (hne : script.ref.fileName ≠ []) {id : Text} (hid : IsPlain id) :
    IsDetectedIn script { (Draft.ofReferences script.ref script.files).node with id } where
  id := hid
  label label hlabel := by
    obtain rfl := Option.some.inj hlabel
    exact ⟨hname.toIsPlain, hne⟩
  extra e he := absurd he List.not_mem_nil
  fileType := rfl
  reads file hfile := by
    rcases List.mem_append.mp hfile with hfile | hfile
    · exact ⟨_, (References.mem_inputs_iff.mp hfile).1⟩
    · exact ⟨_, References.mem_dependencies_iff.mp hfile⟩
  writes := by
    cases hempty : script.files.outputs.isEmpty with
    | true =>
      refine .inl ?_
      simp only [Draft.ofReferences, hempty, if_true]
    | false =>
      refine .inr ?_
      simp only [Draft.ofReferences, hempty, Bool.false_eq_true, if_false]
      exact ⟨by simpa using hempty, fun file hfile => References.mem_outputs_iff.mp hfile⟩

/-- An annotation is suggested for a node whose properties have spellings, and only for
such a node. -/
lemma exists_suggestedText_iff_isSpellable {node : Node} {layout : AnnotationLayout} :
    (∃ text, node.suggestedText layout = .ok text) ↔ ∀ p ∈ node.properties, p.IsSpellable := by
  constructor
  · rintro ⟨text, htext⟩
    exact (Property.written_eq_ok_iff.mp htext).2.1
  · intro h
    exact ⟨_, Property.written_eq_ok_iff.mpr ⟨node.properties_ne_nil, h, rfl⟩⟩

namespace IsDetectedIn

variable {script : Script} {node : Node}

/-- Outside of SQL one of the quotes is in no file that is read or sourced. -/
lemma lacksQuote_reads (h : node.IsDetectedIn script) (hsql : script.language ≠ .sql) :
    (∀ file ∈ node.inputs ++ node.dependencies, '"' ∉ file) ∨
      ∀ file ∈ node.inputs ++ node.dependencies, '\'' ∉ file := by
  have hlacks : ∀ q, (∀ rule ∈ ReferenceRule.ofLanguage script.language,
      rule.avoids q = true) → ∀ file ∈ node.inputs ++ node.dependencies, q ∉ file := by
    intro q havoid file hfile
    obtain ⟨kind, hfind⟩ := h.reads file hfile
    exact hfind.not_mem_of_avoids fun rule hrule _ => havoid rule hrule
  exact (ReferenceRule.avoids_quote_of_mem_ofLanguage hsql).imp (hlacks _) (hlacks _)

/-- One of the quotes is in no file that is written. -/
lemma lacksQuote_writes (h : node.IsDetectedIn script)
    (hname : IsPlainName script.ref.fileName) :
    (∀ file ∈ node.outputs, '"' ∉ file) ∨ ∀ file ∈ node.outputs, '\'' ∉ file := by
  rcases h.writes with houtputs | ⟨-, hfind⟩
  · rw [houtputs]
    simpa using hname.lacksQuote
  · have hlacks : ∀ q, (∀ rule ∈ ReferenceRule.ofLanguage script.language,
        rule.kind = .output → rule.avoids q = true) → ∀ file ∈ node.outputs, q ∉ file :=
      fun q havoid file hfile => (hfind file hfile).not_mem_of_avoids havoid
    by_cases hsql : script.language = .sql
    · refine .inr (hlacks _ ?_)
      rw [hsql]
      exact ReferenceRule.avoids_singleQuote_of_mem_sql
    · exact (ReferenceRule.avoids_quote_of_mem_ofLanguage hsql).imp
        (fun havoid => hlacks _ fun rule hrule _ => havoid rule hrule)
        fun havoid => hlacks _ fun rule hrule _ => havoid rule hrule

/-- A file is one line unless it holds a carriage return. -/
lemma isOneLine_iff (h : node.IsDetectedIn script) (hname : IsPlainName script.ref.fileName)
    (hlines : ∀ line ∈ script.lines, '\n' ∉ line) {file : Text}
    (hfile : file ∈ node.inputs ++ node.dependencies ++ node.outputs) :
    IsOneLine file ↔ '\r' ∉ file := by
  have hfeed : '\n' ∉ file := by
    rcases List.mem_append.mp hfile with hfile | hfile
    · obtain ⟨kind, hfind⟩ := h.reads file hfile
      exact hfind.not_mem_of_lines hlines
    · rcases h.writes with houtputs | ⟨-, hfind⟩
      · rw [houtputs, List.mem_singleton] at hfile
        exact hfile ▸ hname.oneLine.noLineFeed
      · exact (hfind file hfile).not_mem_of_lines hlines
  rw [Text.isOneLine_iff]
  exact and_iff_right hfeed

/-- An annotation is suggested for a detected node unless a path holds a carriage return
or, in SQL, the files that are read and sourced hold both quotes. -/
theorem exists_suggestedText_iff (h : node.IsDetectedIn script)
    (hname : IsPlainName script.ref.fileName) (hlines : ∀ line ∈ script.lines, '\n' ∉ line)
    (layout : AnnotationLayout) :
    (∃ text, node.suggestedText layout = .ok text) ↔
      (∀ file ∈ node.inputs ++ node.dependencies ++ node.outputs, '\r' ∉ file) ∧
        (script.language = .sql →
          (∀ file ∈ node.inputs ++ node.dependencies, '"' ∉ file) ∨
            ∀ file ∈ node.inputs ++ node.dependencies, '\'' ∉ file) := by
  rw [exists_suggestedText_iff_isSpellable, h.isSpellable_properties_iff, isQuotable_join_iff,
    isQuotable_join_iff]
  constructor
  · rintro ⟨⟨hreads, hquote⟩, hwrites, -⟩
    refine ⟨fun file hfile => ?_, fun _ => hquote⟩
    rcases List.mem_append.mp hfile with hfile | hfile
    · exact (hreads file hfile).noReturn
    · exact (hwrites file hfile).noReturn
  · rintro ⟨hreturn, hquote⟩
    have hline : ∀ file ∈ node.inputs ++ node.dependencies ++ node.outputs, IsOneLine file :=
      fun file hfile => (h.isOneLine_iff hname hlines hfile).mpr (hreturn file hfile)
    refine ⟨⟨fun file hfile => hline file (List.mem_append_left _ hfile), ?_⟩,
      fun file hfile => hline file (List.mem_append_right _ hfile), h.lacksQuote_writes hname⟩
    by_cases hsql : script.language = .sql
    · exact hquote hsql
    · exact h.lacksQuote_reads hsql

/-- The files that are read and sourced come back from a list if they hold no comma. -/
lemma commaList_reads (h : node.IsDetectedIn script)
    (hcomma : ∀ file ∈ node.inputs ++ node.dependencies, ',' ∉ file) :
    commaList (join ", " (node.inputs ++ node.dependencies)) =
      node.inputs ++ node.dependencies := by
  refine commaList_join ⟨fun file hfile => ?_, fun file hfile => ?_, hcomma⟩ <;>
    obtain ⟨kind, hfind⟩ := h.reads file hfile
  · exact hfind.isTrimmed
  · exact hfind.ne_nil

/-- The files that are written come back from a list if they hold no comma. -/
lemma commaList_writes (h : node.IsDetectedIn script) (hname : IsPlainName script.ref.fileName)
    (hne : script.ref.fileName ≠ []) (hcomma : ∀ file ∈ node.outputs, ',' ∉ file) :
    commaList (join ", " node.outputs) = node.outputs ∧ node.outputs ≠ [] := by
  rcases h.writes with houtputs | ⟨houtputs, hfind⟩
  · rw [houtputs, hname.commaList_join, if_neg hne]
    exact ⟨rfl, List.cons_ne_nil _ _⟩
  · refine ⟨commaList_join ⟨fun file hfile => ?_, fun file hfile => ?_, hcomma⟩, houtputs⟩
    · exact (hfind file hfile).isTrimmed
    · exact (hfind file hfile).ne_nil

end IsDetectedIn

end Node

namespace Scan

/-! ## Scans of code -/

/-- A path with a language gives a script in it, and a path without one gives none. -/
lemma scriptOf_eq_ok_iff {path : FilePath} {contents : Text} {script : Script} :
    scriptOf path contents = .ok script ↔
      ∃ language, Language.ofPath? path = some language ∧
        script = Script.ofContents path language contents := by
  unfold scriptOf languageOf
  cases Language.ofPath? path with
  | none => simp [Except.map]
  | some language => simp [Except.map, eq_comm]

/-- In a scan of code the drafts of a script are the one that is detected, if there is one. -/
lemma drafts_ofScript_detected {options : ScanOptions} (hmode : options.mode = .detected)
    (script : Script) :
    (ofScript options script).drafts = (Draft.detected? script.ref script.files).toList := by
  simp only [ofScript, drafts, references, hmode, reduceCtorEq, if_false, Script.files]

/-- In a scan of code a script alone gives the node that it is detected to be. -/
lemma nodes_table_detected {options : ScanOptions} (hmode : options.mode = .detected)
    (script : Script) (prior : List Issue) :
    (table options [script] prior).nodes =
      Draft.toNodes (Draft.detected? script.ref script.files).toList := by
  have hdrafts := drafts_ofScript_detected hmode script
  -- a script without a node sources nothing, least of all itself
  have hadd : addSourced [ofScript options script] = [ofScript options script] := by
    cases hempty : (ofScript options script).drafts with
    | nil => simp [addSourced, sourcedTokens, isSourced, hempty]
    | cons draft rest => simp [addSourced, hempty]
  simp only [table, collect, ofScripts, hmode, reduceCtorEq, if_false, List.map_cons,
    List.map_nil, hadd, List.flatMap_cons, List.flatMap_nil, List.append_nil, hdrafts]

/-- The node of a scan of code is of the kind that the script is detected to be. -/
theorem isDetectedIn_of_mem_table {options : ScanOptions} (hmode : options.mode = .detected)
    {script : Script} (hname : IsPlainName script.ref.fileName)
    (hne : script.ref.fileName ≠ []) {prior : List Issue} {node : Node}
    (hnode : node ∈ (table options [script] prior).nodes) : node.IsDetectedIn script := by
  rw [nodes_table_detected hmode] at hnode
  obtain ⟨draft, hdraft, hbecomes⟩ := Draft.exists_becomes_of_mem_nameFrom hnode
  obtain rfl := eq_of_mem_detected? (Option.mem_toList.mp hdraft)
  rcases hbecomes with rfl | ⟨taken, rfl⟩
  · exact Node.isDetectedIn_ofReferences hname hne isPlain_nil
  · exact Node.isDetectedIn_ofReferences hname hne
      (Draft.isPlain_name hname.toIsPlain (FilePath.not_mem_fileName script.path) taken)

/-- A script that holds nothing but the annotation suggested for a node with its tag has
one node, with what the properties of the node stand for. -/
lemma nodes_table_suggestedText {options : ScanOptions} (hmode : options.mode = .annotated)
    {path : FilePath} {language : Language} {node : Node} (h : node.IsDescribable)
    (htype : node.fileType = language.tag) {layout : AnnotationLayout} {text : Text}
    (htext : node.suggestedText layout = .ok text) (prior : List Issue) :
    (table options [Script.ofContents path language text] prior).nodes =
      [(Draft.build (.ofPath path language) ⟨1, node.properties⟩).node] := by
  have hwritten : Property.written node.properties node.commentGroup layout = .ok text := htext
  have hread : Annotations.ofLines (.ofLanguage language) (Text.lines text) =
      [.ok ⟨1, node.properties⟩] :=
    Annotations.ofLines_written hwritten
      (.inr ⟨language, (Node.commentGroup_eq htype).symm, rfl⟩)
  have hgiven : ∀ draft ∈ [Draft.build (.ofPath path language) ⟨1, node.properties⟩],
      draft.needsId = false := by
    intro draft hdraft
    rw [List.mem_singleton.mp hdraft, Draft.build, h.id?_properties, Option.isNone_some]
  have hdrafts : (ofScript options (Script.ofContents path language text)).drafts =
      [Draft.build (.ofPath path language) ⟨1, node.properties⟩] := by
    rw [drafts_ofScript hmode, Script.ofContents, hread]
    rfl
  rw [nodes_table hmode, List.flatMap_cons, List.flatMap_nil, List.append_nil, hdrafts,
    Draft.toNodes, Draft.nameFrom_of_given hgiven]
  rfl

/-- The annotation suggested for a detected node scans back to it.  For a path with a
language and a file name that comes back from a list of files, and for any contents: an
annotation is suggested for the node of a scan of code, in either layout, unless a path
that was found holds a carriage return or, in SQL, the files that are read and sourced hold
both quotes.  A scan of annotations that finds this text at the path gives one node with the
same identifier, label and kind; its inputs are the files that were read and those that
were sourced, and its outputs the same ones, unless some of these files hold commas. -/
theorem suggestedText_detected {options options' : ScanOptions}
    (hmode : options.mode = .detected) (hmode' : options'.mode = .annotated) {path : FilePath}
    {contents : Text} {script : Script} (hscript : scriptOf path contents = .ok script)
    (hname : IsPlainName (FilePath.fileName path)) {prior : List Issue} {node : Node}
    (hnode : node ∈ (table options [script] prior).nodes) (layout : AnnotationLayout)
    (prior' : List Issue) :
    ((∃ text, node.suggestedText layout = .ok text) ↔
      (∀ file ∈ node.inputs ++ node.dependencies ++ node.outputs, '\r' ∉ file) ∧
        (script.language = .sql →
          (∀ file ∈ node.inputs ++ node.dependencies, '"' ∉ file) ∨
            ∀ file ∈ node.inputs ++ node.dependencies, '\'' ∉ file)) ∧
      ∀ text, node.suggestedText layout = .ok text →
        ∃ script', scriptOf path text = .ok script' ∧
          ∃ node', (table options' [script'] prior').nodes = [node'] ∧
            node'.id = node.id ∧ node'.label = node.label ∧ node'.kind = node.kind ∧
            ((∀ file ∈ node.inputs ++ node.dependencies, ',' ∉ file) →
              node'.inputs = node.inputs ++ node.dependencies) ∧
            ((∀ file ∈ node.outputs, ',' ∉ file) → node'.outputs = node.outputs) := by
  obtain ⟨language, hlanguage, rfl⟩ := scriptOf_eq_ok_iff.mp hscript
  have hne := Language.fileName_ne_nil_of_ofPath? hlanguage
  have hname' : IsPlainName (Script.ofContents path language contents).ref.fileName := hname
  have hdetected := isDetectedIn_of_mem_table hmode hname' hne hnode
  have hlines : ∀ line ∈ Text.lines contents, '\n' ∉ line :=
    fun _ hline => noLineFeed_of_mem_lines hline
  refine ⟨hdetected.exists_suggestedText_iff hname hlines layout, fun text htext => ?_⟩
  have hnodes : (table options' [Script.ofContents path language text] prior').nodes =
      [(Draft.build (.ofPath path language) ⟨1, node.properties⟩).node] :=
    nodes_table_suggestedText hmode' hdetected.toIsDescribable hdetected.fileType htext prior'
  refine ⟨_, scriptOf_eq_ok_iff.mpr ⟨language, hlanguage, rfl⟩, _, hnodes, ?_, ?_, ?_,
    fun hcomma => ?_, fun hcomma => ?_⟩
  · simp only [Draft.build, hdetected.id?_properties, Option.getD_some]
  · exact hdetected.label_properties
  · exact hdetected.kind_properties
  · exact hdetected.files_input_properties.trans (hdetected.commaList_reads hcomma)
  · obtain ⟨hlist, houtputs⟩ := hdetected.commaList_writes hname hne hcomma
    simp only [Draft.build, hdetected.files_output_properties, hlist, List.isEmpty_iff, houtputs,
      if_false]

/-- A script that sources a file, reads one and writes one. -/
def sourcing : Text :=
  "source(\"util.R\")\nx <- clean(read.csv(\"raw.csv\"))\nsaveRDS(x, \"clean.rds\")\n"

/-- The node that this script is detected to be. -/
def sourcingNode : Node where
  fileName := "clean.R"
  filePath := "src/clean.R"
  fileType := "r"
  id := "clean_auto"
  label := some "clean.R"
  inputs := ["raw.csv"]
  outputs := ["clean.rds"]
  dependencies := ["util.R"]
  origin := .detected

theorem suggestedText_detected_sourcing :
    ∃ script, scriptOf "src/clean.R" sourcing = .ok script ∧
      (table { mode := .detected } [script] []).nodes = [sourcingNode] ∧
      ∃ text, sourcingNode.suggestedText .multiline = .ok text ∧
        ∃ script', scriptOf "src/clean.R" text = .ok script' ∧
          ∃ node', (table {} [script'] []).nodes = [node'] ∧ node'.id = "clean_auto" ∧
            node'.inputs = ["raw.csv", "util.R"] ∧ node'.outputs = ["clean.rds"] := by
  have hscript : scriptOf "src/clean.R" sourcing =
      .ok (Script.ofContents "src/clean.R" .r sourcing) :=
    scriptOf_eq_ok_iff.mpr ⟨.r, by decide +kernel, rfl⟩
  have hnodes : (table { mode := .detected } [Script.ofContents "src/clean.R" .r sourcing]
      []).nodes = [sourcingNode] := by decide +kernel
  have hnode := List.mem_singleton_self sourcingNode
  rw [← hnodes] at hnode
  have hmode' : ({} : ScanOptions).mode = .annotated := rfl
  have h := suggestedText_detected rfl hmode' hscript (by decide) hnode .multiline []
  obtain ⟨text, htext⟩ := h.1.mpr ⟨by decide, fun hsql => absurd hsql (by decide)⟩
  obtain ⟨script', hscript', node', hnodes', hid, -, -, hinputs, houtputs⟩ := h.2 text htext
  exact ⟨_, hscript, hnodes, text, htext, script', hscript', node', hnodes', hid,
    hinputs (by decide), houtputs (by decide)⟩

/-- The node that a script without files to write is detected to be. -/
def readingNode (path : Text) (language : Language) (files : References) : Node where
  fileName := path
  filePath := path
  fileType := language.tag
  id := "a_auto"
  label := some path
  inputs := files.inputs
  outputs := [path]
  dependencies := files.dependencies
  origin := .detected

/-- None of the exceptions can be left out.  Only a carriage return before a line feed ends
a line, so a path can hold one; the names after `\\i` in SQL can hold both quotes; and a path
with a comma is read again as two. -/
theorem suggestedText_detected_exceptions :
    (Language.ofPath? "a.R" = some .r ∧ Language.ofPath? "a.sql" = some .sql) ∧
    (∃ node, (table { mode := .detected }
        [Script.ofContents "a.R" .r "x <- read.csv(\"a\rb.csv\")"] []).nodes = [node] ∧
      ∀ layout, node.suggestedText layout = .error (.unquotableValue "input" .lineBreak)) ∧
    (∃ node, (table { mode := .detected }
        [Script.ofContents "a.sql" .sql "\\i it's.sql\n\\i a\"b.sql"] []).nodes = [node] ∧
      ∀ layout, node.suggestedText layout = .error (.unquotableValue "input" .bothQuotes)) ∧
    ∃ node text, (table { mode := .detected }
        [Script.ofContents "a.R" .r "x <- read.csv(\"a,b.csv\")"] []).nodes = [node] ∧
      node.inputs = ["a,b.csv"] ∧ node.suggestedText .singleLine = .ok text ∧
      (table {} [Script.ofContents "a.R" .r text] []).nodes.map Node.inputs =
        [(["a", "b.csv"] : List Text)] := by
  refine ⟨⟨by decide +kernel, by decide +kernel⟩,
    ⟨readingNode "a.R" .r { inputs := ["a\rb.csv"] }, by decide +kernel, ?_⟩,
    ⟨readingNode "a.sql" .sql { dependencies := ["it's.sql", "a\"b.sql"] }, by decide +kernel, ?_⟩,
    readingNode "a.R" .r { inputs := ["a,b.csv"] },
    "# put id:\"a_auto\", label:\"a.R\", node_type:\"process\", input:\"a,b.csv\", output:\"a.R\"",
    by decide +kernel, rfl, by decide +kernel, by decide +kernel⟩
  · intro layout
    cases layout <;> decide +kernel
  · intro layout
    cases layout <;> decide +kernel

end Scan

end ScriptFlow
