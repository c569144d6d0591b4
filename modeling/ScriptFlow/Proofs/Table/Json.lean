import Mathlib.Data.List.Nodup
import ScriptFlow.Proofs.Json.ReadBack
import ScriptFlow.Proofs.KeyMap
import ScriptFlow.Proofs.Results
import ScriptFlow.Proofs.Text.Utf8
import ScriptFlow.Table.Json

/-!
# Nodes and issues read back

A node or an issue can be written as JSON exactly if its path is a text
(`FilePath.IsText`), and then it is read as the same one.  An object whose keys are
distinct is read column by column: the member of a column is the only one with its key,
and a column that was left out has its standard value.  The keys of a node are distinct
when no extra property is called like a column (`Node.KeepsColumns`), and the number of a
line is read when it fits into a word of 64 bits.

What was read satisfies these conditions: members that are called like a column are never
taken for extra properties, no larger number is read, and paths are read from texts.
-/

namespace ScriptFlow

namespace Json

/-! ## Columns -/

/-- There is no value for a key that no member has. -/
lemma valuesOf_of_not_mem {members : List (Text × Json)} {key : Text}
    (h : key ∉ members.map Prod.fst) : valuesOf key members = [] := by
  rw [valuesOf, List.filterMap_eq_nil_iff]
  intro member hmember
  have hne : member.1 ≠ key := fun heq => h (heq ▸ List.mem_map_of_mem hmember)
  simp [hne]

/-- Among distinct keys a member has the only value for its key. -/
lemma valuesOf_of_mem {members : List (Text × Json)} (hdistinct : (members.map Prod.fst).Nodup)
    {member : Text × Json} (h : member ∈ members) : valuesOf member.1 members = [member.2] := by
  induction members with
  | nil => exact absurd h List.not_mem_nil
  | cons first rest ih =>
    rw [List.map_cons, List.nodup_cons] at hdistinct
    obtain ⟨hfirst, hrest⟩ := hdistinct
    rcases List.mem_cons.mp h with rfl | h
    · have hnone := valuesOf_of_not_mem hfirst
      simpa [valuesOf] using hnone
    · have hne : first.1 ≠ member.1 := fun heq => hfirst (heq ▸ List.mem_map_of_mem h)
      simpa [valuesOf, hne] using ih hrest h

section Columns

variable {α : Type} {members : List (Text × Json)} (hdistinct : (members.map Prod.fst).Nodup)
  {key : Text} {read : Json → Option α}

include hdistinct

/-- Among distinct keys a required column is read from its member. -/
lemma required?_of_mem (value : Json) (h : (key, value) ∈ members) :
    required? key read members = read value := by
  have hvalues : valuesOf key members = [value] := valuesOf_of_mem hdistinct h
  rw [required?, column, hvalues]

/-- Among distinct keys a column that is there is read from its member. -/
lemma withStandard?_of_mem {standard : α} (value : Json) (h : (key, value) ∈ members) :
    withStandard? key standard read members = read value := by
  have hvalues : valuesOf key members = [value] := valuesOf_of_mem hdistinct h
  rw [withStandard?, column, hvalues]

omit hdistinct in
/-- A column that is not there has its standard value. -/
lemma withStandard?_of_not_mem {standard : α} (h : key ∉ members.map Prod.fst) :
    withStandard? key standard read members = some standard := by
  rw [withStandard?, column, valuesOf_of_not_mem h]

end Columns

/-- A column that was read has its standard value or was read from its member. -/
lemma eq_or_exists_of_withStandard? {α : Type} {key : Text} {standard a : α}
    {read : Json → Option α} {members : List (Text × Json)}
    (h : withStandard? key standard read members = some a) :
    a = standard ∨ ∃ value, read value = some a := by
  unfold withStandard? at h
  split at h
  · exact .inl (Option.some.inj h).symm
  · exact .inr ⟨_, h⟩
  · cases h

/-! ## Values of columns -/

lemma texts?_ofTexts (texts : List Text) : texts? (ofTexts texts) = some texts :=
  mapM_map_eq_some fun _ _ => rfl

lemma orNull?_ofOption (text : Option Text) : orNull? text? (ofOption .str text) = some text := by
  cases text <;> rfl

/-- A number that a word of 64 bits holds. -/
def FitsWord (number : Nat) : Prop :=
  number < 0x10000000000000000

instance (number : Nat) : Decidable (FitsWord number) :=
  inferInstanceAs (Decidable (number < 0x10000000000000000))

/-- A number that fits into a word is read. -/
lemma orNull?_nat {number : Nat} (h : FitsWord number) :
    orNull? word? (.nat number) = some (some number) := by
  have hread : word? (.nat number) = some number := if_pos h
  exact congrArg (Option.map some) hread

lemma isExact_ofTexts (texts : List Text) : IsExact (ofTexts texts) := by
  refine .arr fun value hvalue => ?_
  obtain ⟨text, -, rfl⟩ := List.mem_map.mp hvalue
  exact .str text

lemma isExact_ofOption (text : Option Text) : IsExact (ofOption .str text) := by
  cases text with
  | none => exact .null
  | some text => exact .str text

/-- A number that was read fits into a word. -/
lemma fitsWord_of_orNull? {value : Json} {number : Option Nat}
    (h : orNull? word? value = some number) : ∀ n ∈ number, FitsWord n := by
  intro n hn
  unfold orNull? at h
  split at h
  · obtain rfl := Option.some.inj h
    exact absurd hn (Option.not_mem_none n)
  · obtain ⟨m, hm, rfl⟩ := Option.map_eq_some_iff.mp h
    obtain rfl := Option.some.inj hn
    unfold word? at hm
    split at hm
    · split at hm
      next hfits =>
        obtain rfl := Option.some.inj hm
        exact hfits
      next => cases hm
    · cases hm

/-- A number in a column that may be left out fits into a word. -/
lemma fitsWord_of_withStandard? {key : Text} {members : List (Text × Json)} {number : Option Nat}
    (h : withStandard? key none (orNull? word?) members = some number) :
    ∀ n ∈ number, FitsWord n := by
  rcases eq_or_exists_of_withStandard? h with rfl | ⟨value, hvalue⟩
  · exact fun n hn => absurd hn (Option.not_mem_none n)
  · exact fitsWord_of_orNull? hvalue

end Json

lemma NodeKind.ofTag?_tag (kind : NodeKind) : ofTag? kind.tag = some kind := by
  cases kind <;> decide

lemma Origin.ofTag?_tag (origin : Origin) : ofTag? origin.tag = some origin := by
  cases origin <;> decide

lemma IssueKind.ofTag?_tag (kind : IssueKind) : ofTag? kind.tag = some kind := by
  cases kind <;> decide

/-! ## Paths -/

namespace FilePath

open Text

/-- A path that is a text. -/
def IsText (path : FilePath) : Prop :=
  ∃ text : Text, path = text

lemma isText_iff {path : FilePath} : IsText path ↔ (ofUtf8? path).isSome = true := by
  rw [Option.isSome_iff_exists]
  exact exists_congr fun _ => ofUtf8?_eq_some_iff.symm

instance (path : FilePath) : Decidable (IsText path) :=
  decidable_of_iff _ isText_iff.symm

/-- A path is written as the text that it is. -/
lemma written_eq_ok_iff {path : FilePath} {text : Text} :
    written path = .ok text ↔ path = text := by
  rw [← ofUtf8?_eq_some_iff, written]
  cases ofUtf8? path <;> simp

/-- What holds a path can be written exactly if the path is a text. -/
lemma exists_map_written_eq_ok_iff {α : Type} {path : FilePath} {write : Text → α} :
    (∃ a, (written path).map write = .ok a) ↔ IsText path := by
  simp only [map_eq_ok_iff, written_eq_ok_iff]
  rw [exists_comm]
  exact exists_congr fun text => by simp

end FilePath

/-! ## Nodes -/

namespace Node

/-- No extra property is called like a column. -/
def KeepsColumns (node : Node) : Prop :=
  ∀ e ∈ node.extra.toList, e.1 ∉ columns

instance (node : Node) : Decidable node.KeepsColumns :=
  inferInstanceAs (Decidable (∀ e ∈ node.extra.toList, e.1 ∉ columns))

/-- The members for the columns of a node. -/
def columnMembers (node : Node) (path : Text) : List (Text × Json) :=
  ([("file_name", .str node.fileName), ("file_path", .str path),
      ("file_type", .str node.fileType), ("id", .str node.id),
      ("label", Json.ofOption .str node.label), ("node_type", .str node.kind.tag),
      ("input", Json.ofTexts node.inputs), ("output", Json.ofTexts node.outputs)] :
      List (Text × Json)) ++
    Json.optionalMember "line_number" .nat node.line ++
    Json.optionalMember "dependencies" Json.ofTexts
      (if node.dependencies.isEmpty then none else some node.dependencies) ++
    ([("origin", .str node.origin.tag)] : List (Text × Json))

/-- The members for the extra properties of a node. -/
def extraMembers (node : Node) : List (Text × Json) :=
  node.extra.toList.map fun (key, value) => (key, Json.str value)

lemma members_eq (node : Node) (path : Text) :
    node.members path = node.columnMembers path ++ node.extraMembers := rfl

/-- The columns are written in their order, some of them left out. -/
lemma sublist_columns (node : Node) (path : Text) :
    ((node.columnMembers path).map Prod.fst).Sublist columns := by
  have hoptional : ∀ {α : Type} (key : Text) (write : α → Json) (value : Option α),
      ((Json.optionalMember key write value).map Prod.fst).Sublist [key] := by
    intro α key write value
    cases value with
    | none => exact List.nil_sublist _
    | some value => exact List.Sublist.refl _
  rw [columnMembers, List.map_append, List.map_append, List.map_append]
  exact (((List.Sublist.refl _).append (hoptional _ _ _)).append (hoptional _ _ _)).append
    (List.Sublist.refl _)

lemma map_fst_extraMembers (node : Node) :
    node.extraMembers.map Prod.fst = node.extra.toList.map Prod.fst := by
  rw [extraMembers, List.map_map]
  rfl

section KeepsColumns

variable {node : Node} (h : node.KeepsColumns) (path : Text)

include h

/-- The keys of a node that keeps its columns are distinct. -/
lemma KeepsColumns.nodup_keys : ((node.members path).map Prod.fst).Nodup := by
  have hcolumns : columns.Nodup := by decide
  have hextra : (node.extra.toList.map Prod.fst).Nodup := by
    rw [List.Nodup, List.pairwise_map]
    refine node.extra.sorted.imp fun {e e'} hlt heq => ?_
    rw [heq] at hlt
    exact List.lt_irrefl _ hlt
  rw [members_eq, List.map_append, map_fst_extraMembers, List.nodup_append]
  refine ⟨hcolumns.sublist (node.sublist_columns path), hextra, fun key hkey other hother heq => ?_⟩
  obtain ⟨e, he, rfl⟩ := List.mem_map.mp hother
  exact h e he ((node.sublist_columns path).subset (heq ▸ hkey))

/-- The extra properties of a node that keeps its columns are read again. -/
lemma KeepsColumns.readExtra?_members : readExtra? (node.members path) = some node.extra := by
  have hothers : ((node.members path).filter fun member => !columns.contains member.1) =
      node.extraMembers := by
    rw [members_eq, List.filter_append]
    have hcolumns :
        ((node.columnMembers path).filter fun member => !columns.contains member.1) = [] := by
      refine List.filter_eq_nil_iff.mpr fun member hmember => ?_
      have hkey := (node.sublist_columns path).subset (List.mem_map_of_mem hmember)
      simpa using hkey
    have hextra : (node.extraMembers.filter fun member => !columns.contains member.1) =
        node.extraMembers := by
      refine List.filter_eq_self.mpr fun member hmember => ?_
      obtain ⟨e, he, rfl⟩ := List.mem_map.mp hmember
      simpa using h e he
    rw [hcolumns, hextra, List.nil_append]
  have hpairs : node.extraMembers.mapM
      (fun member => member.2.text?.map fun value => (member.1, value)) = some node.extra.toList :=
    mapM_map_eq_some fun _ _ => rfl
  rw [readExtra?, hothers, hpairs, Option.map_some, KeyMap.ofList_toList]

/-- A column that may be left out is read as what was written for it. -/
lemma KeepsColumns.not_mem_keys {key : Text} (hcolumn : key ∈ columns)
    (hkey : key ∉ (node.columnMembers path).map Prod.fst) :
    key ∉ (node.members path).map Prod.fst := by
  rw [members_eq, List.map_append, map_fst_extraMembers, List.mem_append, not_or]
  refine ⟨hkey, fun hextra => ?_⟩
  obtain ⟨e, he, rfl⟩ := List.mem_map.mp hextra
  exact h e he hcolumn

/-- A line that fits into a word is read again. -/
lemma KeepsColumns.read_line (hline : ∀ line ∈ node.line, Json.FitsWord line) :
    Json.withStandard? "line_number" none (Json.orNull? Json.word?) (node.members path) =
      some node.line := by
  cases hcase : node.line with
  | none =>
    refine Json.withStandard?_of_not_mem (h.not_mem_keys path (by decide) ?_)
    cases hempty : node.dependencies.isEmpty <;>
      simp [columnMembers, Json.optionalMember, hcase, hempty]
  | some line =>
    have hmem : (("line_number" : Text), Json.nat line) ∈ node.members path := by
      simp [members, Json.optionalMember, hcase]
    exact (Json.withStandard?_of_mem (h.nodup_keys path) _ hmem).trans
      (Json.orNull?_nat (hline line hcase))

/-- Dependencies are read again, none when there was no member for them. -/
lemma KeepsColumns.read_dependencies :
    Json.withStandard? "dependencies" [] Json.texts? (node.members path) =
      some node.dependencies := by
  cases hempty : node.dependencies.isEmpty with
  | true =>
    have hnone : Json.withStandard? "dependencies" [] Json.texts? (node.members path) =
        some [] := by
      refine Json.withStandard?_of_not_mem (h.not_mem_keys path (by decide) ?_)
      cases hline : node.line <;> simp [columnMembers, Json.optionalMember, hline, hempty]
    rw [hnone, List.isEmpty_iff.mp hempty]
  | false =>
    have hmem : (("dependencies" : Text), Json.ofTexts node.dependencies) ∈ node.members path := by
      simp [members, Json.optionalMember, hempty]
    exact (Json.withStandard?_of_mem (h.nodup_keys path) _ hmem).trans (Json.texts?_ofTexts _)

/-- The members of a node are read as this node, if no extra property is called like a column
and its line fits into a word. -/
lemma KeepsColumns.ofMembers?_members (hline : ∀ line ∈ node.line, Json.FitsWord line)
    (hpath : node.filePath = path) : ofMembers? (node.members path) = some node := by
  have hkeys := h.nodup_keys path
  have hfileName : Json.required? "file_name" Json.text? (node.members path) = some node.fileName :=
    Json.required?_of_mem hkeys (.str node.fileName) (by simp [members])
  have hfilePath : Json.required? "file_path" Json.text? (node.members path) = some path :=
    Json.required?_of_mem hkeys (.str path) (by simp [members])
  have hfileType : Json.required? "file_type" Json.text? (node.members path) = some node.fileType :=
    Json.required?_of_mem hkeys (.str node.fileType) (by simp [members])
  have hid : Json.required? "id" Json.text? (node.members path) = some node.id :=
    Json.required?_of_mem hkeys (.str node.id) (by simp [members])
  have hlabel : Json.withStandard? "label" none (Json.orNull? Json.text?) (node.members path) =
      some node.label :=
    (Json.withStandard?_of_mem hkeys _ (by simp [members])).trans (Json.orNull?_ofOption node.label)
  have hkind : Json.withStandard? "node_type" .process (Json.name? NodeKind.ofTag?)
      (node.members path) = some node.kind :=
    (Json.withStandard?_of_mem hkeys (.str node.kind.tag) (by simp [members])).trans
      node.kind.ofTag?_tag
  have hinputs : Json.withStandard? "input" [] Json.texts? (node.members path) = some node.inputs :=
    (Json.withStandard?_of_mem hkeys _ (by simp [members])).trans (Json.texts?_ofTexts node.inputs)
  have houtputs : Json.withStandard? "output" [] Json.texts? (node.members path) =
      some node.outputs :=
    (Json.withStandard?_of_mem hkeys _ (by simp [members])).trans (Json.texts?_ofTexts node.outputs)
  have horigin : Json.withStandard? "origin" .annotated (Json.name? Origin.ofTag?)
      (node.members path) = some node.origin :=
    (Json.withStandard?_of_mem hkeys (.str node.origin.tag) (by simp [members])).trans
      node.origin.ofTag?_tag
  rw [ofMembers?]
  simp only [hfileName, hfilePath, hfileType, hid, hlabel, hkind, hinputs, houtputs,
    h.read_line path hline, h.read_dependencies path, horigin, h.readExtra?_members path,
    Option.bind_eq_bind, Option.bind_some, ← hpath]

end KeepsColumns

/-- A node whose path is a text is written as the object of its members. -/
lemma toJson_eq_ok_iff {node : Node} {json : Json} :
    node.toJson = .ok json ↔
      ∃ path : Text, node.filePath = path ∧ .obj (node.members path) = json := by
  simp only [toJson, map_eq_ok_iff, FilePath.written_eq_ok_iff]

/-- A node can be written exactly if its path is a text. -/
lemma exists_toJson_eq_ok_iff {node : Node} :
    (∃ json, node.toJson = .ok json) ↔ FilePath.IsText node.filePath :=
  FilePath.exists_map_written_eq_ok_iff

/-- A node that was written is read again. -/
lemma KeepsColumns.ofJson?_of_toJson {node : Node} (h : node.KeepsColumns)
    (hline : ∀ line ∈ node.line, Json.FitsWord line) {json : Json}
    (hjson : node.toJson = .ok json) : ofJson? json = some node := by
  obtain ⟨path, hpath, rfl⟩ := toJson_eq_ok_iff.mp hjson
  exact h.ofMembers?_members path hline hpath

/-- Every value of a node is written as it is read. -/
lemma isExact_of_toJson {node : Node} {json : Json} (hjson : node.toJson = .ok json) :
    Json.IsExact json := by
  obtain ⟨path, -, rfl⟩ := toJson_eq_ok_iff.mp hjson
  refine .obj fun member hmember => ?_
  rw [members_eq] at hmember
  rcases List.mem_append.mp hmember with hmember | hmember
  · have hline : ∀ member ∈ Json.optionalMember "line_number" .nat node.line,
        Json.IsExact member.2 := by
      cases node.line with
      | none => exact fun member hmember => absurd hmember List.not_mem_nil
      | some line => exact List.forall_mem_singleton.mpr (.nat line)
    have hdependencies : ∀ member ∈ Json.optionalMember "dependencies" Json.ofTexts
        (if node.dependencies.isEmpty then none else some node.dependencies),
        Json.IsExact member.2 := by
      split
      · exact fun member hmember => absurd hmember List.not_mem_nil
      · exact List.forall_mem_singleton.mpr (Json.isExact_ofTexts _)
    rw [columnMembers, List.mem_append, List.mem_append, List.mem_append] at hmember
    rcases hmember with ((hmember | hmember) | hmember) | hmember
    · simp only [List.mem_cons, List.not_mem_nil, or_false] at hmember
      rcases hmember with rfl | rfl | rfl | rfl | rfl | rfl | rfl | rfl
      all_goals first
        | exact .str _
        | exact Json.isExact_ofOption _
        | exact Json.isExact_ofTexts _
    · exact hline member hmember
    · exact hdependencies member hmember
    · rw [List.mem_singleton.mp hmember]
      exact .str _
  · obtain ⟨e, -, rfl⟩ := List.mem_map.mp hmember
    exact .str e.2

/-- No member called like a column is taken for an extra property. -/
lemma not_mem_columns_of_readExtra? {members : List (Text × Json)} {extra : KeyMap Text}
    (h : readExtra? members = some extra) : ∀ e ∈ extra.toList, e.1 ∉ columns := by
  intro e he
  obtain ⟨pairs, hpairs, rfl⟩ := Option.map_eq_some_iff.mp h
  have hmem := KeyMap.mem_of_mem_toList_ofList he
  obtain ⟨member, hmember, hread⟩ := exists_mem_left_of_forall₂ (mapM_eq_some_iff.mp hpairs) hmem
  obtain ⟨value, -, rfl⟩ := Option.map_eq_some_iff.mp hread
  simpa using (List.mem_filter.mp hmember).2

/-- A node is read from some members, its line and its extra properties among them, and its
path from a text. -/
lemma exists_members_of_ofJson? {value : Json} {node : Node} (h : ofJson? value = some node) :
    ∃ members, readExtra? members = some node.extra ∧
      Json.withStandard? "line_number" none (Json.orNull? Json.word?) members = some node.line ∧
      FilePath.IsText node.filePath := by
  obtain ⟨members, -, hnode⟩ := Option.bind_eq_some_iff.mp h
  unfold ofMembers? at hnode
  simp only [Option.bind_eq_bind, Option.bind_eq_some_iff] at hnode
  obtain ⟨_, -, path, -, _, -, _, -, _, -, _, -, _, -, _, -, line, hline, _, -, _, -, extra,
    hextra, hnode⟩ := hnode
  obtain rfl := Option.some.inj hnode
  exact ⟨members, hextra, hline, path, rfl⟩

/-- A node that was read keeps its columns. -/
lemma keepsColumns_of_ofJson? {value : Json} {node : Node} (h : ofJson? value = some node) :
    node.KeepsColumns := by
  obtain ⟨members, hextra, -⟩ := exists_members_of_ofJson? h
  exact not_mem_columns_of_readExtra? hextra

/-- The line of a node that was read fits into a word. -/
lemma fitsWord_of_ofJson? {value : Json} {node : Node} (h : ofJson? value = some node) :
    ∀ line ∈ node.line, Json.FitsWord line := by
  obtain ⟨members, -, hline, -⟩ := exists_members_of_ofJson? h
  exact Json.fitsWord_of_withStandard? hline

/-- The path of a node that was read is a text. -/
lemma isText_of_ofJson? {value : Json} {node : Node} (h : ofJson? value = some node) :
    FilePath.IsText node.filePath := by
  obtain ⟨members, -, -, htext⟩ := exists_members_of_ofJson? h
  exact htext

end Node

/-! ## Issues -/

namespace Issue

lemma nodup_keys (issue : Issue) (file : Text) :
    ((issue.members file).map Prod.fst).Nodup := by
  unfold members
  cases issue.line with
  | none => exact (by decide : (["kind", "file", "message"] : List Text).Nodup)
  | some line => exact (by decide : (["kind", "file", "line", "message"] : List Text).Nodup)

/-- The members of an issue are read as this issue if its line fits into a word. -/
lemma ofJson?_members {issue : Issue} {file : Text}
    (hline : ∀ line ∈ issue.line, Json.FitsWord line) (hfile : issue.file = file) :
    ofJson? (.obj (issue.members file)) = some issue := by
  have hkeys := issue.nodup_keys file
  have hkind : Json.required? "kind" (Json.name? IssueKind.ofTag?) (issue.members file) =
      some issue.kind :=
    (Json.required?_of_mem hkeys (.str issue.kind.tag) (by simp [members])).trans
      issue.kind.ofTag?_tag
  have hpath : Json.required? "file" Json.text? (issue.members file) = some file :=
    Json.required?_of_mem hkeys (.str file) (by simp [members])
  have hmessage : Json.required? "message" Json.text? (issue.members file) = some issue.message :=
    Json.required?_of_mem hkeys (.str issue.message) (by simp [members])
  have hread : Json.withStandard? "line" none (Json.orNull? Json.word?) (issue.members file) =
      some issue.line := by
    cases hcase : issue.line with
    | none =>
      refine Json.withStandard?_of_not_mem ?_
      simp [members, Json.optionalMember, hcase]
    | some line =>
      have hmem : (("line" : Text), Json.nat line) ∈ issue.members file := by
        simp [members, Json.optionalMember, hcase]
      exact (Json.withStandard?_of_mem hkeys _ hmem).trans (Json.orNull?_nat (hline line hcase))
  rw [ofJson?]
  simp only [hkind, hpath, hread, hmessage, Option.bind_eq_bind, Option.bind_some, ← hfile]

/-- An issue whose path is a text is written as the object of its members. -/
lemma toJson_eq_ok_iff {issue : Issue} {json : Json} :
    issue.toJson = .ok json ↔
      ∃ file : Text, issue.file = file ∧ .obj (issue.members file) = json := by
  simp only [toJson, map_eq_ok_iff, FilePath.written_eq_ok_iff]

/-- An issue can be written exactly if its path is a text. -/
lemma exists_toJson_eq_ok_iff {issue : Issue} :
    (∃ json, issue.toJson = .ok json) ↔ FilePath.IsText issue.file :=
  FilePath.exists_map_written_eq_ok_iff

/-- An issue that was written is read again. -/
lemma ofJson?_of_toJson {issue : Issue} (hline : ∀ line ∈ issue.line, Json.FitsWord line)
    {json : Json} (hjson : issue.toJson = .ok json) : ofJson? json = some issue := by
  obtain ⟨file, hfile, rfl⟩ := toJson_eq_ok_iff.mp hjson
  exact ofJson?_members hline hfile

/-- Every value of an issue is written as it is read. -/
lemma isExact_of_toJson {issue : Issue} {json : Json} (hjson : issue.toJson = .ok json) :
    Json.IsExact json := by
  obtain ⟨file, -, rfl⟩ := toJson_eq_ok_iff.mp hjson
  refine .obj fun member hmember => ?_
  rcases List.mem_append.mp hmember with hmember | hmember
  · rcases List.mem_append.mp hmember with hmember | hmember
    · simp only [List.mem_cons, List.not_mem_nil, or_false] at hmember
      rcases hmember with rfl | rfl <;> exact .str _
    · cases hline : issue.line with
      | none =>
        rw [hline] at hmember
        exact absurd hmember List.not_mem_nil
      | some line =>
        rw [hline] at hmember
        rw [List.mem_singleton.mp hmember]
        exact .nat line
  · rw [List.mem_singleton.mp hmember]
    exact .str _

/-- The line of an issue that was read fits into a word, and its path is a text. -/
lemma fitsWord_and_isText_of_ofJson? {value : Json} {issue : Issue}
    (h : ofJson? value = some issue) :
    (∀ line ∈ issue.line, Json.FitsWord line) ∧ FilePath.IsText issue.file := by
  unfold ofJson? at h
  split at h
  next members =>
    simp only [Option.bind_eq_bind, Option.bind_eq_some_iff] at h
    obtain ⟨_, -, file, -, line, hline, _, -, hissue⟩ := h
    obtain rfl := Option.some.inj hissue
    exact ⟨Json.fitsWord_of_withStandard? hline, file, rfl⟩
  next =>
    simp only [Option.bind_eq_bind, Option.bind_eq_some_iff] at h
    obtain ⟨_, -, file, -, line, hline, _, -, hissue⟩ := h
    obtain rfl := Option.some.inj hissue
    exact ⟨Json.fitsWord_of_orNull? hline, file, rfl⟩
  next => cases h

end Issue

end ScriptFlow
