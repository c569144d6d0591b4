import ScriptFlow.Proofs.Scan.Source

/-!
# Identifiers of the nodes of a table

An identifier that an annotation gives is kept.  The other nodes get the first free name
for their script and line, where the names taken are the identifiers given anywhere in the
table and those made for earlier nodes (`NodeSource.Names`).  So no identifier is made
twice, and none is made that was given, before or after.

Every later use of a given identifier is reported at its place (`IdUse.IsReportedBy`), and
no other issue of a scan looks like such a report.  `Scan.exists_assignsIds_table` says both
of every table.
-/

namespace ScriptFlow

open Text

namespace NodeSource

/-! ## Made identifiers -/

/-- What a made identifier starts with: the stem of the script and the line, if there is
one. -/
def idBase (source : NodeSource) : Text :=
  let stem := (Path.stem? source.script.fileName).getD "node"
  match source.line with
  | some line => stem ++ "_" ++ ofNat line
  | none => stem ++ "_auto"

/-- The identifiers of the nodes to whose sources none was given. -/
def madeIds (sources : List NodeSource) (nodes : List Node) : List Text :=
  ((sources.zip nodes).filter fun e => e.1.id?.isNone).map fun e => e.2.id

/-- The nodes have identifiers that are their own and not among some that are taken. -/
structure Names (taken : List Text) (sources : List NodeSource) (nodes : List Node) : Prop where
  /-- An identifier is the first that is neither taken nor made for an earlier node. -/
  first : ∀ i source node, sources[i]? = some source → nodes[i]? = some node →
    source.id? = none →
    Fresh.IsFirst (taken ++ madeIds (sources.take i) (nodes.take i)) source.idBase node.id
  /-- No identifier is made that is taken. -/
  fresh : ∀ id ∈ madeIds sources nodes, id ∉ taken
  /-- No identifier is made that is empty. -/
  nonempty : ∀ id ∈ madeIds sources nodes, id ≠ []
  /-- No identifier is made twice. -/
  nodup : (madeIds sources nodes).Nodup

lemma idBase_ne_nil (source : NodeSource) : source.idBase ≠ [] := by
  unfold idBase
  dsimp only
  split <;> simp

/-- A node is named for its script and line. -/
lemma Drafts.idBase_eq {source : NodeSource} {draft : Draft} (h : source.Drafts draft) :
    Draft.idBase draft.node = source.idBase := by
  have hfileName : draft.node.fileName = source.script.fileName := congrArg Node.fileName h.frame
  unfold Draft.idBase idBase
  rw [hfileName, h.line]
  cases hstem : Path.stem? source.script.fileName with
  | none => rfl
  | some stem =>
    cases stem with
    | nil => exact absurd rfl (Path.ne_nil_of_stem? hstem)
    | cons c rest => rfl

lemma madeIds_cons_of_none {source : NodeSource} (hid : source.id? = none) (node : Node)
    (sources : List NodeSource) (nodes : List Node) :
    madeIds (source :: sources) (node :: nodes) = node.id :: madeIds sources nodes := by
  simp [madeIds, hid]

lemma madeIds_cons_of_some {source : NodeSource} {id : Text} (hid : source.id? = some id)
    (node : Node) (sources : List NodeSource) (nodes : List Node) :
    madeIds (source :: sources) (node :: nodes) = madeIds sources nodes := by
  simp [madeIds, hid]

lemma names_nil (taken : List Text) : Names taken [] [] where
  first i source node hsource := by
    rw [List.getElem?_nil] at hsource
    cases hsource
  fresh _ hid := absurd hid List.not_mem_nil
  nonempty _ hid := absurd hid List.not_mem_nil
  nodup := List.nodup_nil

section Cons

variable {taken : List Text} {source : NodeSource} {node : Node} {sources : List NodeSource}
  {nodes : List Node}

/-- Before nodes that know its identifier a node can get the first free one. -/
lemma Names.cons_of_none (hid : source.id? = none)
    (hnode : Fresh.IsFirst taken source.idBase node.id) (h : Names (node.id :: taken) sources nodes) :
    Names taken (source :: sources) (node :: nodes) where
  first i other named hother hnamed hnone := by
    cases i with
    | zero =>
      obtain rfl := Option.some.inj hother
      obtain rfl := Option.some.inj hnamed
      exact hnode.of_mem_iff fun name => by simp [madeIds]
    | succ i =>
      have hfirst := h.first i other named hother hnamed hnone
      refine hfirst.of_mem_iff fun name => ?_
      rw [List.take_succ_cons, List.take_succ_cons, madeIds_cons_of_none hid]
      simp only [List.mem_append, List.mem_cons]
      exact or_left_comm.trans or_assoc.symm
  fresh := by
    rw [madeIds_cons_of_none hid]
    refine List.forall_mem_cons.mpr ⟨hnode.free, fun id hmem htaken => ?_⟩
    exact h.fresh id hmem (List.mem_cons_of_mem _ htaken)
  nonempty := by
    rw [madeIds_cons_of_none hid]
    exact List.forall_mem_cons.mpr ⟨hnode.ne_nil source.idBase_ne_nil, h.nonempty⟩
  nodup := by
    rw [madeIds_cons_of_none hid, List.nodup_cons]
    exact ⟨fun hmem => h.fresh _ hmem List.mem_cons_self, h.nodup⟩

/-- Before other nodes a node can have an identifier that was given. -/
lemma Names.cons_of_some {id : Text} (hid : source.id? = some id)
    (h : Names taken sources nodes) : Names taken (source :: sources) (node :: nodes) where
  first i other named hother hnamed hnone := by
    cases i with
    | zero =>
      obtain rfl := Option.some.inj hother
      rw [hid] at hnone
      cases hnone
    | succ i =>
      rw [List.take_succ_cons, List.take_succ_cons, madeIds_cons_of_some hid]
      exact h.first i other named hother hnamed hnone
  fresh := madeIds_cons_of_some hid node sources nodes ▸ h.fresh
  nonempty := madeIds_cons_of_some hid node sources nodes ▸ h.nonempty
  nodup := madeIds_cons_of_some hid node sources nodes ▸ h.nodup

end Cons

/-- Naming drafts one after the other names each as it should be. -/
lemma names_nameFrom {sources : List NodeSource} {drafts : List Draft}
    (h : List.Forall₂ Drafts sources drafts) (taken : List Text) :
    Names taken sources (Draft.nameFrom taken drafts) := by
  induction h generalizing taken with
  | nil => exact names_nil taken
  | @cons source draft _ _ hdraft _ ih =>
    rw [Draft.nameFrom, hdraft.needsId, hdraft.idBase_eq]
    cases hid : source.id? with
    | none =>
      exact (ih _).cons_of_none hid (Fresh.isFirst_name taken source.idBase)
    | some id => exact (ih taken).cons_of_some hid

end NodeSource

/-! ## Given identifiers -/

/-- A use of an identifier that was given, and where it is. -/
structure IdUse where
  id : Text
  path : FilePath
  line : Option Nat
  deriving DecidableEq, Repr

namespace IdUse

/-- The use that a node makes of its identifier. -/
def ofNode (node : Node) : IdUse where
  id := node.id
  path := node.filePath
  line := node.line

/-- An issue reports a use of an identifier that was used before. -/
structure IsReportedBy (use : IdUse) (issue : Issue) : Prop where
  kind : issue.kind = .validation
  file : issue.file = use.path
  line : issue.line = use.line
  message : startsWith ("Duplicate id '" ++ use.id ++ "' ") issue.message = true

/-- The issue about a node reports the use of its identifier. -/
lemma isReportedBy_duplicateIssue (earlier node : Node) :
    (ofNode node).IsReportedBy (Draft.duplicateIssue earlier node) where
  kind := rfl
  file := rfl
  line := rfl
  message := by
    have hsplit : ("' (first used at " : Text) = "' " ++ "(first used at " := by decide
    simp only [startsWith, List.isPrefixOf_iff_prefix, Draft.duplicateIssue, ofNode, hsplit,
      List.append_assoc]
    rw [List.prefix_append_right_inj, List.prefix_append_right_inj]
    exact List.prefix_append _ _

end IdUse

/-- Whether an issue is about an identifier that was given twice. -/
def Issue.isDuplicateId (issue : Issue) : Bool :=
  issue.kind == .validation && startsWith "Duplicate id '" issue.message

namespace NodeSource

/-- The use of the identifier that an annotation gives, unless it is blank. -/
def idUse? (source : NodeSource) : Option IdUse :=
  (source.id?.filter fun id => !id.isEmpty).map fun id => ⟨id, source.script.path, source.line⟩

/-- The uses of given identifiers, in order. -/
def idUses (sources : List NodeSource) : List IdUse :=
  sources.filterMap idUse?

/-- A draft has a given identifier if its source gives one, and then it is at the same
place. -/
lemma Drafts.idUse?_eq {source : NodeSource} {draft : Draft} (h : source.Drafts draft) :
    source.idUse? = if draft.hasGivenId then some (IdUse.ofNode draft.node) else none := by
  rw [idUse?, IdUse.ofNode, Draft.hasGivenId, h.needsId, h.id, h.filePath, h.line]
  cases source.id? with
  | none => rfl
  | some id => cases id <;> rfl

/-- The uses of the drafts with given identifiers are those of their sources. -/
lemma map_ofNode_givenNodes {sources : List NodeSource} {drafts : List Draft}
    (h : List.Forall₂ Drafts sources drafts) :
    (Draft.givenNodes drafts).map IdUse.ofNode = idUses sources := by
  induction h with
  | nil => rfl
  | @cons source draft sources drafts hdraft _ ih =>
    rw [idUses, List.filterMap_cons, hdraft.idUse?_eq, ← idUses, ← ih, Draft.givenNodes,
      List.filter_cons]
    cases draft.hasGivenId <;> rfl

/-- The identifiers that are taken before any is made are the given ones. -/
lemma map_id_givenNodes {sources : List NodeSource} {drafts : List Draft}
    (h : List.Forall₂ Drafts sources drafts) :
    (Draft.givenNodes drafts).map Node.id = (idUses sources).map IdUse.id := by
  rw [← map_ofNode_givenNodes h, List.map_map]
  rfl

end NodeSource

namespace Scan

/-! ## Tables -/

/-- No issue about an annotation is about an identifier that was given twice. -/
lemma isDuplicateId_of_mem_readingIssues {path : FilePath}
    {reading : Except FaultyAnnotation Annotation} {issue : Issue}
    (h : issue ∈ readingIssues path reading) : issue.isDuplicateId = false := by
  cases reading with
  | ok found =>
    obtain ⟨warning, -, rfl⟩ := List.mem_map.mp h
    cases warning <;> rfl
  | error fault =>
    rw [List.mem_singleton.mp h]
    rfl

/-- The nodes of a table have their identifiers, and what was given twice is reported. -/
structure AssignsIds (sources : List NodeSource) (nodes : List Node) (added : List Issue) :
    Prop where
  /-- Each node is of its source, with the identifier that this gives. -/
  gives : List.Forall₂ NodeSource.Gives sources nodes
  /-- The identifiers that were not given are the first free ones. -/
  names : NodeSource.Names ((NodeSource.idUses sources).map IdUse.id) sources nodes
  /-- The later uses of given identifiers are reported, in order. -/
  reported : List.Forall₂ IdUse.IsReportedBy
    (laterUses IdUse.id [] (NodeSource.idUses sources)) (added.filter Issue.isDuplicateId)
  /-- There is a report for every use but the first one of each identifier. -/
  count : (added.filter Issue.isDuplicateId).length =
    (NodeSource.idUses sources).length -
      ((NodeSource.idUses sources).map IdUse.id).eraseDups.length

/-- The reports about the drafts of some sources are those of the later uses. -/
lemma forall₂_duplicateIssues {sources : List NodeSource} {drafts : List Draft}
    (h : List.Forall₂ NodeSource.Drafts sources drafts) :
    List.Forall₂ IdUse.IsReportedBy (laterUses IdUse.id [] (NodeSource.idUses sources))
      (Draft.duplicateIssues drafts) := by
  have huses : laterUses IdUse.id [] (NodeSource.idUses sources) =
      (laterUses Node.id [] (Draft.givenNodes drafts)).map IdUse.ofNode := by
    rw [← NodeSource.map_ofNode_givenNodes h, laterUses_map]
    rfl
  rw [huses, List.forall₂_map_left_iff]
  refine (Draft.forall₂_duplicatesFrom [] (Draft.givenNodes drafts)).flip.imp ?_
  rintro node issue ⟨earlier, rfl⟩
  exact IdUse.isReportedBy_duplicateIssue earlier node

/-- The reports are the only issues of a scan that look like one. -/
lemma filter_isDuplicateId (options : ScanOptions) (scripts : List Script) (drafts : List Draft) :
    (annotationIssues options scripts ++ Draft.duplicateIssues drafts).filter
      Issue.isDuplicateId = Draft.duplicateIssues drafts := by
  have hothers : (annotationIssues options scripts).filter Issue.isDuplicateId = [] := by
    refine List.filter_eq_nil_iff.mpr fun issue hissue => ?_
    obtain ⟨script, -, reading, -, hissue⟩ := mem_annotationIssues.mp hissue
    rw [isDuplicateId_of_mem_readingIssues hissue]
    exact Bool.false_ne_true
  have hreports : (Draft.duplicateIssues drafts).filter Issue.isDuplicateId =
      Draft.duplicateIssues drafts := by
    refine List.filter_eq_self.mpr fun issue hissue => ?_
    obtain ⟨draft, -, earlier, rfl⟩ := Draft.exists_eq_duplicateIssue hissue
    rfl
  rw [List.filter_append, hothers, hreports, List.nil_append]

/-- The nodes of every table have their identifiers: those that were given, and else the
first free names.  The issues that a scan adds report the later uses of what was given. -/
theorem exists_assignsIds_table (options : ScanOptions) (scripts : List Script)
    (prior : List Issue) :
    ∃ sources added, AreSources options scripts sources ∧
      (table options scripts prior).issues = prior ++ added ∧
      AssignsIds sources (table options scripts prior).nodes added := by
  obtain ⟨sources, hsources, hdrafts⟩ := exists_sources_allDrafts options scripts
  have hnames : NodeSource.Names ((NodeSource.idUses sources).map IdUse.id) sources
      (table options scripts prior).nodes := by
    rw [nodes_table_eq, Draft.toNodes, NodeSource.map_id_givenNodes hdrafts]
    exact NodeSource.names_nameFrom hdrafts _
  have hgives : List.Forall₂ NodeSource.Gives sources (table options scripts prior).nodes :=
    NodeSource.forall₂_gives hdrafts (Draft.forall₂_nameFrom _ _)
  have hreported := forall₂_duplicateIssues hdrafts
  have hcount := length_laterUses_add IdUse.id [] (NodeSource.idUses sources)
  rw [List.filter_eq_self.mpr (by simp), hreported.length_eq] at hcount
  refine ⟨sources, _, hsources, issues_table options scripts prior, hgives, hnames, ?_, ?_⟩
  · rw [filter_isDuplicateId]
    exact hreported
  · rw [filter_isDuplicateId]
    omega

/-- The first node cannot have `a_1`, which is given later, and so takes the name that the
second one would get. -/
example :
    let scripts : List Script :=
      [⟨"a.R", .r, ["# put label:'one'"]⟩, ⟨"a_1.R", .r, ["", "# put label:'two'"]⟩,
        ⟨"b.R", .r, ["# put id:'a_1'", "# put id:' a_1 '"]⟩]
    (table {} scripts []).nodes.map Node.id = ["a_1_2", "a_1_2_2", "a_1", "a_1"] := by
  decide

end Scan

end ScriptFlow
