import ScriptFlow.Proofs.Annotation.Blocks
import ScriptFlow.Proofs.Annotation.NodeProperties
import ScriptFlow.Proofs.Scan.Source
import ScriptFlow.Proofs.Table.Json

/-!
# Tables read back

A table is written as JSON exactly if all its paths are texts (`Table.HasTextPaths`), since
JSON has no other way to hold them.  What was written is read as the same table if no extra
property of a node is called like a column (`Table.KeepsColumns`) and the numbers of lines fit
into words (`Table.FitsWords`); `Table.readsBack` puts this together with where such tables
come from.

Every table that was read is of this kind.  So is every table of a scan, up to its paths: an
annotation passes on only the properties that no column is called like, and it stands on one
of the lines of its script.  The paths are those of the scripts, texts or not.
-/

namespace ScriptFlow

namespace Table

/-- No extra property of a node is called like a column. -/
def KeepsColumns (table : Table) : Prop :=
  ∀ node ∈ table.nodes, node.KeepsColumns

instance (table : Table) : Decidable table.KeepsColumns :=
  inferInstanceAs (Decidable (∀ node ∈ table.nodes, node.KeepsColumns))

/-- Every number of a line fits into a word of 64 bits, as it does in memory. -/
@[mk_iff]
structure FitsWords (table : Table) : Prop where
  nodes : ∀ node ∈ table.nodes, ∀ line ∈ node.line, Json.FitsWord line
  issues : ∀ issue ∈ table.issues, ∀ line ∈ issue.line, Json.FitsWord line

instance (table : Table) : Decidable table.FitsWords :=
  decidable_of_iff _ (fitsWords_iff table).symm

/-- Every path in a table is a text. -/
@[mk_iff]
structure HasTextPaths (table : Table) : Prop where
  nodes : ∀ node ∈ table.nodes, FilePath.IsText node.filePath
  issues : ∀ issue ∈ table.issues, FilePath.IsText issue.file

instance (table : Table) : Decidable table.HasTextPaths :=
  decidable_of_iff _ (hasTextPaths_iff table).symm

/-! ## Written tables -/

/-- A table is written as its nodes and its issues, when these can be written. -/
lemma toJson_eq_ok_iff {table : Table} {json : Json} :
    table.toJson = .ok json ↔
      ∃ nodes issues, table.nodes.mapM Node.toJson = .ok nodes ∧
        table.issues.mapM Issue.toJson = .ok issues ∧
        .obj [("nodes", .arr nodes), ("issues", .arr issues)] = json := by
  simp only [toJson, rowsJson, bind_eq_ok_iff, map_eq_ok_iff, pure, Except.pure, Except.ok.injEq]
  constructor
  · rintro ⟨_, ⟨nodes, hnodes, rfl⟩, issues, hissues, hjson⟩
    exact ⟨nodes, issues, hnodes, hissues, hjson⟩
  · rintro ⟨nodes, issues, hnodes, hissues, hjson⟩
    exact ⟨_, ⟨nodes, hnodes, rfl⟩, issues, hissues, hjson⟩

/-- A table can be written exactly if its paths are texts. -/
lemma exists_toJson_eq_ok_iff {table : Table} :
    (∃ json, table.toJson = .ok json) ↔ table.HasTextPaths := by
  have hnodes : (∃ nodes, table.nodes.mapM Node.toJson = .ok nodes) ↔
      ∀ node ∈ table.nodes, FilePath.IsText node.filePath := by
    simp only [exists_mapM_eq_ok_iff, Node.exists_toJson_eq_ok_iff]
  have hissues : (∃ issues, table.issues.mapM Issue.toJson = .ok issues) ↔
      ∀ issue ∈ table.issues, FilePath.IsText issue.file := by
    simp only [exists_mapM_eq_ok_iff, Issue.exists_toJson_eq_ok_iff]
  rw [hasTextPaths_iff, ← hnodes, ← hissues]
  constructor
  · rintro ⟨json, hjson⟩
    obtain ⟨nodes, issues, hnodes, hissues, -⟩ := toJson_eq_ok_iff.mp hjson
    exact ⟨⟨nodes, hnodes⟩, issues, hissues⟩
  · rintro ⟨⟨nodes, hnodes⟩, issues, hissues⟩
    exact ⟨_, toJson_eq_ok_iff.mpr ⟨nodes, issues, hnodes, hissues, rfl⟩⟩

/-- A table with a path that is no text is refused for it. -/
lemma toJson_eq_error {table : Table} (h : ¬table.HasTextPaths) :
    table.toJson = .error .pathNotText := by
  rw [← exists_toJson_eq_ok_iff, ← exists_eq_error_iff] at h
  obtain ⟨⟨⟩, herror⟩ := h
  exact herror

/-- A table that was written is read again. -/
lemma ofJson?_of_toJson {table : Table} (hcolumns : table.KeepsColumns)
    (hwords : table.FitsWords) {json : Json} (hjson : table.toJson = .ok json) :
    ofJson? json = some table := by
  obtain ⟨rows, reports, hrows, hreports, rfl⟩ := toJson_eq_ok_iff.mp hjson
  have hnodes : readNodes? (.arr rows) = some table.nodes :=
    mapM_eq_some_of_mapM_eq_ok (fun node hnode _ =>
      (hcolumns node hnode).ofJson?_of_toJson (hwords.nodes node hnode)) hrows
  have hissues : readIssues? (.arr reports) = some table.issues :=
    mapM_eq_some_of_mapM_eq_ok (fun issue hissue _ =>
      Issue.ofJson?_of_toJson (hwords.issues issue hissue)) hreports
  have hkeys : (([("nodes", .arr rows), ("issues", .arr reports)] :
      List (Text × Json)).map Prod.fst).Nodup :=
    (by decide : (["nodes", "issues"] : List Text).Nodup)
  rw [ofJson?, Json.required?_of_mem hkeys (.arr rows) (by simp),
    Json.withStandard?_of_mem hkeys (.arr reports) (by simp), hnodes, hissues]
  rfl

/-- Every value of a table is written as it is read. -/
lemma isExact_of_toJson {table : Table} {json : Json} (hjson : table.toJson = .ok json) :
    Json.IsExact json := by
  obtain ⟨rows, reports, hrows, hreports, rfl⟩ := toJson_eq_ok_iff.mp hjson
  have hnodes : Json.IsExact (.arr rows) := by
    refine .arr fun row hrow => ?_
    obtain ⟨node, -, hnode⟩ := exists_mem_left_of_forall₂ (mapM_eq_ok_iff.mp hrows) hrow
    exact Node.isExact_of_toJson hnode
  have hissues : Json.IsExact (.arr reports) := by
    refine .arr fun report hreport => ?_
    obtain ⟨issue, -, hissue⟩ := exists_mem_left_of_forall₂ (mapM_eq_ok_iff.mp hreports) hreport
    exact Issue.isExact_of_toJson hissue
  exact .obj (List.forall_mem_cons.mpr ⟨hnodes, List.forall_mem_singleton.mpr hissues⟩)

/-- The text of a table is read as this table. -/
lemma bind_parse?_pretty_of_toJson {table : Table} (hcolumns : table.KeepsColumns)
    (hwords : table.FitsWords) {json : Json} (hjson : table.toJson = .ok json) :
    (Json.parse? json.pretty).bind ofJson? = some table := by
  rw [Json.parse?_pretty (isExact_of_toJson hjson), Option.bind_some,
    ofJson?_of_toJson hcolumns hwords hjson]

/-! ## Tables that were read -/

/-- Every node among what was read was read from some value. -/
lemma exists_ofJson?_of_readNodes? {value : Json} {nodes : List Node}
    (h : readNodes? value = some nodes) {node : Node} (hnode : node ∈ nodes) :
    ∃ row, Node.ofJson? row = some node := by
  obtain ⟨elements, -, hnodes⟩ := Option.bind_eq_some_iff.mp h
  obtain ⟨row, -, hread⟩ := exists_mem_left_of_forall₂ (mapM_eq_some_iff.mp hnodes) hnode
  exact ⟨row, hread⟩

/-- Every issue among what was read was read from some value. -/
lemma exists_ofJson?_of_readIssues? {value : Json} {issues : List Issue}
    (h : readIssues? value = some issues) {issue : Issue} (hissue : issue ∈ issues) :
    ∃ report, Issue.ofJson? report = some issue := by
  obtain ⟨elements, -, hissues⟩ := Option.bind_eq_some_iff.mp h
  obtain ⟨report, -, hread⟩ := exists_mem_left_of_forall₂ (mapM_eq_some_iff.mp hissues) hissue
  exact ⟨report, hread⟩

/-- A table is read as its nodes and its issues, if it has any. -/
lemma exists_reads_of_ofJson? {value : Json} {table : Table} (h : ofJson? value = some table) :
    (∃ nodes, readNodes? nodes = some table.nodes) ∧
      (table.issues = [] ∨ ∃ issues, readIssues? issues = some table.issues) := by
  unfold ofJson? at h
  split at h
  next members =>
    simp only [Option.bind_eq_bind, Option.bind_eq_some_iff] at h
    obtain ⟨nodes, hnodes, issues, hissues, htable⟩ := h
    obtain rfl := Option.some.inj htable
    refine ⟨?_, Json.eq_or_exists_of_withStandard? hissues⟩
    unfold Json.required? at hnodes
    split at hnodes
    · exact ⟨_, hnodes⟩
    · cases hnodes
  next rows =>
    simp only [Option.bind_eq_bind, Option.bind_eq_some_iff] at h
    obtain ⟨nodes, hnodes, htable⟩ := h
    obtain rfl := Option.some.inj htable
    exact ⟨⟨rows, hnodes⟩, .inl rfl⟩
  next rows reports =>
    simp only [Option.bind_eq_bind, Option.bind_eq_some_iff] at h
    obtain ⟨nodes, hnodes, issues, hissues, htable⟩ := h
    obtain rfl := Option.some.inj htable
    exact ⟨⟨rows, hnodes⟩, .inr ⟨reports, hissues⟩⟩
  next => cases h

/-- Every node and every issue of a table that was read was read from some value. -/
lemma exists_ofJson?_of_ofJson? {value : Json} {table : Table} (h : ofJson? value = some table) :
    (∀ node ∈ table.nodes, ∃ row, Node.ofJson? row = some node) ∧
      ∀ issue ∈ table.issues, ∃ report, Issue.ofJson? report = some issue := by
  obtain ⟨⟨nodes, hnodes⟩, hissues⟩ := exists_reads_of_ofJson? h
  refine ⟨fun node hnode => exists_ofJson?_of_readNodes? hnodes hnode, fun issue hissue => ?_⟩
  rcases hissues with hnone | ⟨issues, hissues⟩
  · rw [hnone] at hissue
    exact absurd hissue List.not_mem_nil
  · exact exists_ofJson?_of_readIssues? hissues hissue

/-- Every table that was read keeps its columns. -/
lemma keepsColumns_of_ofJson? {value : Json} {table : Table} (h : ofJson? value = some table) :
    table.KeepsColumns := by
  intro node hnode
  obtain ⟨row, hrow⟩ := (exists_ofJson?_of_ofJson? h).1 node hnode
  exact Node.keepsColumns_of_ofJson? hrow

/-- Every table that was read fits into words. -/
lemma fitsWords_of_ofJson? {value : Json} {table : Table} (h : ofJson? value = some table) :
    table.FitsWords where
  nodes node hnode := by
    obtain ⟨row, hrow⟩ := (exists_ofJson?_of_ofJson? h).1 node hnode
    exact Node.fitsWord_of_ofJson? hrow
  issues issue hissue := by
    obtain ⟨report, hreport⟩ := (exists_ofJson?_of_ofJson? h).2 issue hissue
    exact (Issue.fitsWord_and_isText_of_ofJson? hreport).1

/-- Every path in a table that was read is a text. -/
lemma hasTextPaths_of_ofJson? {value : Json} {table : Table} (h : ofJson? value = some table) :
    table.HasTextPaths where
  nodes node hnode := by
    obtain ⟨row, hrow⟩ := (exists_ofJson?_of_ofJson? h).1 node hnode
    exact Node.isText_of_ofJson? hrow
  issues issue hissue := by
    obtain ⟨report, hreport⟩ := (exists_ofJson?_of_ofJson? h).2 issue hissue
    exact (Issue.fitsWord_and_isText_of_ofJson? hreport).2

end Table

/-! ## Tables of scans -/

namespace Scan

/-- The extra properties of an annotation are not called like a column. -/
lemma not_mem_columns_of_mem_extra {properties : List Property} {e : Text × Text}
    (h : e ∈ (Draft.extra properties).toList) : e.1 ∉ Node.columns := by
  have hextra := (Draft.mem_of_mem_extra h).1
  have hcolumns : ∀ key ∈ Node.columns, Draft.isExtraKey key = false := by decide
  intro hmem
  rw [hcolumns e.1 hmem] at hextra
  cases hextra

/-- Every table of a scan keeps its columns. -/
lemma keepsColumns_table (options : ScanOptions) (scripts : List Script) (prior : List Issue) :
    (table options scripts prior).KeepsColumns := by
  intro node hnode e he
  obtain ⟨sources, -, hnodes⟩ := exists_sources options scripts prior
  obtain ⟨source, -, hgives⟩ := exists_mem_left_of_forall₂ hnodes hnode
  rw [hgives.extra] at he
  cases hfound : source.found with
  | none =>
    rw [hfound] at he
    exact absurd he List.not_mem_nil
  | some found =>
    rw [hfound] at he
    exact not_mem_columns_of_mem_extra he

section Places

variable {options : ScanOptions} {scripts : List Script}

/-- A path and the number of a line, if there is one, that belong to a script. -/
structure IsPlaceIn (script : Script) (path : FilePath) (line : Option Nat) : Prop where
  path_eq : path = script.path
  line_le : ∀ n ∈ line, n ≤ script.lines.length

/-- What is read in a script stands on one of its lines. -/
lemma headLine_le_of_mem_readings {script : Script} {reading : Except FaultyAnnotation Annotation}
    (h : reading ∈ readings options script) :
    Annotations.headLine reading ≤ script.lines.length := by
  unfold readings at h
  split at h
  · exact absurd h List.not_mem_nil
  · exact Annotations.headLine_le_of_mem_ofLines h

/-- An issue about a reading names the file and the line of the reading. -/
lemma isPlaceIn_of_mem_readingIssues {script : Script}
    {reading : Except FaultyAnnotation Annotation} (hreading : reading ∈ readings options script)
    {issue : Issue} (h : issue ∈ readingIssues script.path reading) :
    IsPlaceIn script issue.file issue.line := by
  have hline := headLine_le_of_mem_readings hreading
  cases reading with
  | ok found =>
    obtain ⟨warning, -, rfl⟩ := List.mem_map.mp h
    exact ⟨rfl, fun _ hn => Option.some.inj hn ▸ hline⟩
  | error fault =>
    rw [List.mem_singleton.mp h]
    exact ⟨rfl, fun _ hn => Option.some.inj hn ▸ hline⟩

/-- A source stands in one of the scripts. -/
lemma AreSources.exists_isPlaceIn {sources : List NodeSource}
    (h : AreSources options scripts sources) {source : NodeSource} (hsource : source ∈ sources) :
    ∃ script ∈ scripts, IsPlaceIn script source.script.path source.line := by
  obtain ⟨script, hscript, href, hfound⟩ := h.exists_script hsource
  refine ⟨script, hscript, congrArg ScriptRef.path href, fun line hline => ?_⟩
  obtain ⟨found, hmem, rfl⟩ := Option.map_eq_some_iff.mp hline
  have hreading : .ok found ∈ readings options script := mem_annotations.mp (hfound found hmem)
  exact headLine_le_of_mem_readings hreading

/-- A node of a scan stands in one of the scripts. -/
lemma exists_isPlaceIn_of_mem_nodes {prior : List Issue} {node : Node}
    (h : node ∈ (table options scripts prior).nodes) :
    ∃ script ∈ scripts, IsPlaceIn script node.filePath node.line := by
  obtain ⟨sources, hsources, hnodes⟩ := exists_sources options scripts prior
  obtain ⟨source, hsource, hgives⟩ := exists_mem_left_of_forall₂ hnodes h
  rw [hgives.filePath, hgives.line]
  exact hsources.exists_isPlaceIn hsource

/-- An issue of a scan was there before or stands in one of the scripts. -/
lemma mem_or_exists_isPlaceIn_of_mem_issues {prior : List Issue} {issue : Issue}
    (h : issue ∈ (table options scripts prior).issues) :
    issue ∈ prior ∨ ∃ script ∈ scripts, IsPlaceIn script issue.file issue.line := by
  rw [issues_table, List.mem_append, List.mem_append] at h
  rcases h with h | h | h
  · exact .inl h
  · obtain ⟨script, hscript, reading, hreading, hissue⟩ := mem_annotationIssues.mp h
    exact .inr ⟨script, hscript, isPlaceIn_of_mem_readingIssues hreading hissue⟩
  · obtain ⟨draft, hdraft, earlier, rfl⟩ := Draft.exists_eq_duplicateIssue h
    obtain ⟨sources, hsources, hdrafts⟩ := exists_sources_allDrafts options scripts
    obtain ⟨source, hsource, hsourceDrafts⟩ := exists_mem_left_of_forall₂ hdrafts hdraft
    refine .inr ?_
    rw [Draft.duplicateIssue, hsourceDrafts.filePath, hsourceDrafts.line]
    exact hsources.exists_isPlaceIn hsource

/-- A table of a scan fits into words if its scripts do and the issues from before. -/
lemma fitsWords_table (hscripts : ∀ script ∈ scripts, Json.FitsWord script.lines.length)
    {prior : List Issue} (hprior : ∀ issue ∈ prior, ∀ line ∈ issue.line, Json.FitsWord line) :
    (table options scripts prior).FitsWords where
  nodes node hnode line hline := by
    obtain ⟨script, hscript, hplace⟩ := exists_isPlaceIn_of_mem_nodes hnode
    exact Nat.lt_of_le_of_lt (hplace.line_le line hline) (hscripts script hscript)
  issues issue hissue line hline := by
    rcases mem_or_exists_isPlaceIn_of_mem_issues hissue with hmem | ⟨script, hscript, hplace⟩
    · exact hprior issue hmem line hline
    · exact Nat.lt_of_le_of_lt (hplace.line_le line hline) (hscripts script hscript)

/-- The paths in a table of a scan are texts if those of its scripts are and those of the
issues from before. -/
lemma hasTextPaths_table (hscripts : ∀ script ∈ scripts, FilePath.IsText script.path)
    {prior : List Issue} (hprior : ∀ issue ∈ prior, FilePath.IsText issue.file) :
    (table options scripts prior).HasTextPaths where
  nodes node hnode := by
    obtain ⟨script, hscript, hplace⟩ := exists_isPlaceIn_of_mem_nodes hnode
    exact hplace.path_eq ▸ hscripts script hscript
  issues issue hissue := by
    rcases mem_or_exists_isPlaceIn_of_mem_issues hissue with hmem | ⟨script, hscript, hplace⟩
    · exact hprior issue hmem
    · exact hplace.path_eq ▸ hscripts script hscript

end Places

end Scan

namespace Table

/-- The text of a table is read as the same table if no extra property is called like a
column and the numbers of lines fit into words.  There is such a text exactly if every path in
the table is a text, and else writing fails for such a path.

No extra property is called like a column in any table of a scan; its numbers of lines fit if
the lines of its scripts can be counted and those of the issues from before fit, and its paths
are texts if those of its scripts are and those of these issues.  All of this holds of every
table that was read. -/
theorem readsBack :
    (∀ table : Table, table.KeepsColumns → table.FitsWords →
      (table.HasTextPaths → ∃ json, table.toJson = .ok json ∧
        (Json.parse? json.pretty).bind ofJson? = some table) ∧
      (¬table.HasTextPaths → table.toJson = .error .pathNotText)) ∧
    (∀ options scripts prior,
      (Scan.table options scripts prior).KeepsColumns ∧
        ((∀ script ∈ scripts, Json.FitsWord script.lines.length) →
          (∀ issue ∈ prior, ∀ line ∈ issue.line, Json.FitsWord line) →
            (Scan.table options scripts prior).FitsWords) ∧
        ((∀ script ∈ scripts, FilePath.IsText script.path) →
          (∀ issue ∈ prior, FilePath.IsText issue.file) →
            (Scan.table options scripts prior).HasTextPaths)) ∧
    ∀ text table, (Json.parse? text).bind ofJson? = some table →
      table.KeepsColumns ∧ table.FitsWords ∧ table.HasTextPaths := by
  refine ⟨fun table hcolumns hwords => ⟨fun htexts => ?_, toJson_eq_error⟩,
    fun options scripts prior => ⟨Scan.keepsColumns_table options scripts prior,
      fun hscripts hprior => Scan.fitsWords_table hscripts hprior,
      fun hscripts hprior => Scan.hasTextPaths_table hscripts hprior⟩, ?_⟩
  · obtain ⟨json, hjson⟩ := exists_toJson_eq_ok_iff.mpr htexts
    exact ⟨json, hjson, bind_parse?_pretty_of_toJson hcolumns hwords hjson⟩
  · intro text table hread
    obtain ⟨value, -, hvalue⟩ := Option.bind_eq_some_iff.mp hread
    exact ⟨keepsColumns_of_ofJson? hvalue, fitsWords_of_ofJson? hvalue,
      hasTextPaths_of_ofJson? hvalue⟩

/-- A table with a node that uses every column, one that uses hardly any, and issues with
and without a line. -/
def sampleTable : Table where
  nodes :=
    [{ fileName := "a b.R", filePath := "src/a b.R", fileType := "r", id := "fit\t\"é\"",
       label := some "Fit \\ plot\n\u0000", kind := .decision, inputs := ["x.csv", "😀.rds"],
       outputs := ["out/p\u2028.png"], line := some 12, dependencies := ["util.R"],
       origin := .detected, extra := KeyMap.ofList [("style", "wide"), ("color", "\u001bred")] },
      { id := "bare" }]
  issues :=
    [⟨.syntaxError, "src/a b.R", some 3, "Unclosed quote '\"'"⟩, ⟨.io, "gone.py", none, ""⟩]

/-- A script with an annotation whose properties are called like columns. -/
def sampleScript : Script :=
  ⟨"a.R", .r, ["x <- 1", "# put label:'go', origin:detected, line_number:'7'"]⟩

/-- A script at a path that is no text, since a byte in it starts no character. -/
def unspelledScript : Script :=
  { sampleScript with path := [0x61, 0xFF, 0x2E, 0x52] }

theorem readsBack_sampleTable :
    (sampleTable.KeepsColumns ∧ sampleTable.FitsWords ∧ sampleTable.HasTextPaths ∧
      ∃ json, sampleTable.toJson = .ok json ∧
        (Json.parse? json.pretty).bind ofJson? = some sampleTable) ∧
    (Scan.table {} [sampleScript] []).FitsWords ∧
    (Scan.table {} [sampleScript] []).HasTextPaths ∧
    (Scan.table {} [unspelledScript] []).toJson = .error .pathNotText := by
  have hcolumns : sampleTable.KeepsColumns := by decide
  have hwords : sampleTable.FitsWords := by decide
  have htexts : sampleTable.HasTextPaths := by decide
  obtain ⟨json, hjson, hread⟩ := (readsBack.1 sampleTable hcolumns hwords).1 htexts
  obtain ⟨-, hscanWords, hscanTexts⟩ := readsBack.2.1 {} [sampleScript] []
  obtain ⟨hcolumns', hwords', -⟩ := readsBack.2.1 {} [unspelledScript] []
  have hrefused := (readsBack.1 _ hcolumns' (hwords' (by decide) (by decide))).2 (by decide)
  exact ⟨⟨(readsBack.2.2 _ _ hread).1, hwords, htexts, json, hjson, hread⟩,
    hscanWords (by decide) (by decide), hscanTexts (by decide) (by decide), hrefused⟩

end Table

end ScriptFlow
